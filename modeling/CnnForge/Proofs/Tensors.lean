import CnnForge.Network.Inputs
import CnnForge.Simulator.Pooling

namespace CnnForge

def IsByte (x : Int) : Prop := -128 ≤ x ∧ x ≤ 127

theorem IsByte.zero : IsByte 0 := by simp [IsByte]

namespace Tensor

variable {P : Int → Prop} {t u : Tensor} {shape : List Nat}

def All (P : Int → Prop) (t : Tensor) : Prop := ∀ x ∈ t.data, P x

theorem all_ofFn {f : Nat → Int} (each : ∀ k, P (f k)) : (ofFn shape f).All P := by
  intro x member
  obtain ⟨k, rfl⟩ := Array.mem_ofFn.mp member
  exact each k

theorem all_map {f : Int → Int} (each : ∀ x ∈ t.data, P (f x)) : (t.map f).All P := by
  intro y member
  obtain ⟨x, inside, rfl⟩ := Array.mem_map.mp member
  exact each x inside

namespace All

theorem getD {xs : Array Int} (all : ∀ x ∈ xs, P x) (zero : P 0) (k : Nat) : P (xs.getD k 0) := by
  rw [Array.getD_eq_getD_getElem?]
  cases found : xs[k]? with
  | none => exact zero
  | some x => exact all x (Array.mem_of_getElem? found)

section

variable (all : t.All P)
include all

theorem flat (zero : P 0) (k : Nat) : P (t.flat k) := getD all zero k

theorem reshape? (done : t.reshape? shape = some u) : u.All P := by
  unfold Tensor.reshape? at done
  split at done
  · cases done
    exact all
  · cases done

theorem reshapeWith? {sizes : List (Option Nat)} (done : t.reshapeWith? sizes = some u) :
    u.All P := by
  unfold Tensor.reshapeWith? at done
  split at done
  · exact all.reshape? done
  · obtain ⟨n, _, done⟩ := Option.bind_eq_some_iff.mp done
    exact all.reshape? done
  · cases done

theorem part (zero : P 0) (i : Nat) : (t.part i).All P := by
  unfold Tensor.part
  split
  · exact all
  · exact all_ofFn fun k => all.flat zero _

theorem splitChannels? {count : Nat} (done : t.splitChannels? count = some u) : u.All P := by
  unfold Tensor.splitChannels? at done
  split at done
  · cases done
  · exact all.reshape? done

theorem splitColumns? {count : Nat} (zero : P 0) (done : t.splitColumns? count = some u) :
    u.All P := by
  unfold Tensor.splitColumns? at done
  split at done
  · cases done
  · cases done
    exact all_ofFn fun k => all.flat zero _

theorem selectChannels (zero : P 0) (first count : Nat) : (t.selectChannels first count).All P :=
  all_ofFn fun _ => all.flat zero _

theorem stride3 (zero : P 0) (s : Nat) : (t.stride3 s).All P := all_ofFn fun _ => all.flat zero _

theorem stride4 (zero : P 0) (r s : Nat) : (t.stride4 r s).All P :=
  all_ofFn fun _ => all.flat zero _

end

theorem ofArray? {xs : Array Int} (all : ∀ x ∈ xs, P x) (done : Tensor.ofArray? shape xs = some u) : u.All P := by
  unfold Tensor.ofArray? at done
  split at done
  · cases done
    exact all
  · cases done

variable {ts : List Tensor} (all : ∀ t ∈ ts, t.All P)
include all

theorem joined {start : Array Int} (before : ∀ x ∈ start, P x) :
    ∀ x ∈ ts.foldl (fun xs t => xs ++ t.data) start, P x := by
  induction ts generalizing start with
  | nil => exact before
  | cons t ts ih =>
    apply ih fun u member => all u (by simp [member])
    intro x member
    rcases Array.mem_append.mp member with earlier | here
    · exact before x earlier
    · exact all t (by simp) x here

theorem concat? (done : Tensor.concat? ts = some u) : u.All P := by
  unfold Tensor.concat? at done
  split at done
  · cases done
  · split at done
    · cases done
    · split at done
      · exact ofArray? (joined all (by simp)) done
      · cases done

end All

end Tensor

open List

variable {n : Nat}

theorem shapeSize_append (a b : List Nat) : shapeSize (a ++ b) = shapeSize a * shapeSize b := by
  induction a with
  | nil => simp [shapeSize]
  | cons n a ih => simp [shapeSize, ih, Nat.mul_assoc]

namespace Tensor

variable {t : Tensor} {shape : List Nat}

theorem reshape?_of_size (same : shapeSize shape = shapeSize t.shape) :
    ∃ u, t.reshape? shape = some u ∧ u.shape = shape := by
  simp [reshape?, same]

theorem reshapeWith?_of_size (before after : List Nat)
    (same : shapeSize t.shape = shapeSize before * n * shapeSize after)
    (filled : 0 < shapeSize before * shapeSize after) :
    ∃ u, t.reshapeWith? (before.map some ++ none :: after.map some) = some u ∧ u.shape = before ++ n :: after := by
  have known : (before.map some ++ none :: after.map some).filterMap id = before ++ after := by simp
  have missing : (before.map some ++ none :: after.map some).filter Option.isNone = [none] := by
    have given : ∀ sizes : List Nat, (sizes.map some).filter Option.isNone = [] := by
      simp [filter_eq_nil_iff]
    simp [given]
  have total : t.size = shapeSize before * shapeSize after * n := by
    rw [Tensor.size, t.size_eq, same]
    ac_rfl
  have completed : completing? t.size (shapeSize (before ++ after)) = some n := by
    rw [shapeSize_append, completing?, if_neg (by omega), total, if_pos (Nat.mul_mod_right _ _),
      Nat.mul_div_cancel_left _ filled]
  have shape : (before.map some ++ none :: after.map some).map (·.getD n) = before ++ n :: after := by
    simp [Function.comp_def]
  have size : shapeSize (before ++ n :: after) = shapeSize t.shape := by
    rw [same, shapeSize_append, shapeSize]
    ac_rfl
  simp only [reshapeWith?, known, missing, completed, shape, Option.bind_eq_bind, Option.bind_some]
  exact reshape?_of_size size

end Tensor

end CnnForge
