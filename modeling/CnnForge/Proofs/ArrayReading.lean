import CnnForge.CSource.Function
import CnnForge.Proofs.SessionText

/-! How C reads a generated array definition: lines are joined at continuations, the joined line is cut into tokens,
and the tokens after the name are a braced list of integer constants. Reading gives back the array that was written.
-/

namespace CnnForge.CSource

open Text

attribute [local instance (2000)] instPowNat

abbrev Lexeme := List Char

/-- The first line of a text, joined with the next one at each backslash before a line end, and
what follows it. -/
def logicalLine? : List Char → Option (List Char × List Char)
  | '\\' :: '\n' :: rest => logicalLine? rest
  | '\n' :: rest => some ([], rest)
  | c :: rest => (logicalLine? rest).map (Prod.map (c :: ·) id)
  | [] => none

def isSpace (c : Char) : Bool := c = ' ' || c = '\t' || c = '\x0b' || c = '\x0c'
def opensName (c : Char) : Bool := c.isAlpha || c = '_'
def insideName (c : Char) : Bool := c.isAlphanum || c = '_'

def isIdentifier : Lexeme → Bool
  | [] => false
  | c :: rest => opensName c && rest.all insideName

/-- Whether `c` belongs to the token that `w` begins. Letters belong to a number that they follow,
and so does a sign after the letter of an exponent: `0x1e-5` is one token. -/
def grows (w : Lexeme) (c : Char) : Bool :=
  match w with
  | [] => false
  | first :: _ =>
    opensName first && insideName c ||
      first.isDigit && (insideName c || c = '.' ||
        (c = '+' || c = '-') && w.getLast?.any fun last => "eEpP".toList.contains last)

def closed (w : Lexeme) : List Lexeme := if w.isEmpty then [] else [w]

/-- The tokens of a line of which `w` is the token begun: each is taken as long as it grows. -/
def lexemes (w : Lexeme) : List Char → List Lexeme
  | [] => closed w
  | c :: rest =>
    if grows w c then lexemes (w ++ [c]) rest
    else closed w ++ lexemes (if isSpace c then [] else [c]) rest

def digitIn? (base : Nat) (c : Char) : Option Nat :=
  let d :=
    if c.isDigit then c.toNat - 48
    else if 'a' ≤ c && c ≤ 'f' then c.toNat - 87
    else if 'A' ≤ c && c ≤ 'F' then c.toNat - 55
    else base
  if d < base then some d else none

def accumulate (base n : Nat) (c : Char) : Option Nat := (digitIn? base c).map (n * base + ·)

def natural? (base : Nat) (cs : List Char) : Option Nat :=
  if cs.isEmpty then none else cs.foldlM (accumulate base) 0

/-- An integer constant: hexadecimal after `0x`, octal after another leading zero, else decimal. -/
def constant? : Lexeme → Option Nat
  | '0' :: c :: rest => if c = 'x' || c = 'X' then natural? 16 rest else natural? 8 (c :: rest)
  | w => natural? 10 w

def element? : List Lexeme → Option Int
  | [w] => (constant? w).map fun n : Nat => (n : Int)
  | [['-'], w] => (constant? w).map fun n : Nat => -(n : Int)
  | _ => none

/-- The elements between a pair of braces, with a comma between one and the next. -/
def initializer? : List Lexeme → Option (List Int)
  | ['\x7b'] :: rest =>
    if rest.getLast? = some ['\x7d'] then (rest.dropLast.splitOn [',']).mapM element? else none
  | _ => none

structure ArrayDefinition where
  name : String
  items : List Int
deriving Repr, DecidableEq

def arrayDefinition? : List Lexeme → Option ArrayDefinition
  | ['#'] :: ['d', 'e', 'f', 'i', 'n', 'e'] :: name :: body =>
    if isIdentifier name then (initializer? body).map (⟨String.ofList name, ·⟩) else none
  | _ => none

/-- The array definition at the start of a text, and the text after it. -/
def readDefinition? (text : String) : Option (ArrayDefinition × String) :=
  (logicalLine? text.toList).bind fun line =>
    (arrayDefinition? (lexemes [] line.1)).map fun d => (d, String.ofList line.2)

/-! Joined lines -/

def Plain (cs : List Char) : Prop := ∀ c ∈ cs, c ≠ '\\' ∧ c ≠ '\n'

theorem logicalLine?_plain {cs : List Char} (plain : Plain cs) (rest : List Char) :
    logicalLine? (cs ++ rest) = (logicalLine? rest).map (Prod.map (cs ++ ·) id) := by
  induction cs with
  | nil =>
    rw [List.nil_append]
    cases logicalLine? rest <;> rfl
  | cons c cs ih =>
    have here := plain c (by simp)
    rw [List.cons_append, logicalLine?, ih fun d member => plain d (by simp [member]), Option.map_map]
    · rfl
    · rintro r rfl
      exact absurd rfl here.1
    · rintro rfl
      exact absurd rfl here.2

/-! Tokens -/

/-- The text `l` is cut into `ws`, whatever comes after it. -/
def Lexes (l : List Char) (ws : List Lexeme) : Prop :=
  ∀ rest, lexemes [] (l ++ rest) = ws ++ lexemes [] rest

theorem Lexes.append {l l' : List Char} {ws ws' : List Lexeme} (first : Lexes l ws) (second : Lexes l' ws') :
    Lexes (l ++ l') (ws ++ ws') := by
  intro rest
  rw [List.append_assoc, first, second, List.append_assoc]

theorem Lexes.space : Lexes [' '] [] := fun _ => rfl

theorem Lexes.mark {c : Char} (space : isSpace c = false) (alone : ∀ d, grows [c] d = false) :
    Lexes [c] [[c]] := by
  intro rest
  cases rest with
  | nil => simp [lexemes, grows, closed, space]
  | cons d rest => simp [lexemes, alone, closed, space, show ∀ d, grows [] d = false from fun _ => rfl]

theorem Lexes.comma : Lexes [','] [[',']] := Lexes.mark rfl fun _ => rfl

/-- A name or a number, of letters and digits throughout. -/
structure Word (w : Lexeme) : Prop where
  opens : ∃ c rest, w = c :: rest ∧ (opensName c || c.isDigit) = true
  inside : ∀ c ∈ w, insideName c = true

theorem Word.grows {w : Lexeme} {c : Char} (word : Word w) (inside : insideName c = true) :
    grows w c = true := by
  obtain ⟨first, rest, rfl, opens⟩ := word.opens
  simpa [CSource.grows, inside] using opens

theorem Word.ends {w : Lexeme} (word : Word w) {c : Char} (separates : c = ' ' ∨ c = ',') :
    CSource.grows w c = false := by
  obtain ⟨first, rest, rfl, -⟩ := word.opens
  rcases separates with rfl | rfl <;> simp [CSource.grows, insideName]

theorem lexemes_word {w cs : List Char} (word : Word w) (inside : ∀ c ∈ cs, insideName c = true)
    (rest : List Char) : lexemes w (cs ++ rest) = lexemes (w ++ cs) rest := by
  induction cs generalizing w with
  | nil => simp
  | cons c cs ih =>
    have more : Word (w ++ [c]) := by
      obtain ⟨first, tail, rfl, opens⟩ := word.opens
      refine ⟨⟨first, tail ++ [c], rfl, opens⟩, fun d member => ?_⟩
      rcases List.mem_append.mp member with old | new
      · exact word.inside d old
      · exact inside d (by simp_all)
    rw [List.cons_append, lexemes, if_pos (word.grows (inside c (by simp))),
      ih more fun d member => inside d (by simp [member]), List.append_assoc, List.singleton_append]

theorem Lexes.word {w : Lexeme} {c : Char} {ws : List Lexeme} (word : Word w) (separates : c = ' ' ∨ c = ',')
    (after : Lexes [c] ws) : Lexes (w ++ [c]) (w :: ws) := by
  intro rest
  obtain ⟨first, tail, rfl, opens⟩ := word.opens
  have start : lexemes [] (first :: tail ++ c :: rest) = lexemes [first] (tail ++ c :: rest) := by
    have visible : isSpace first = false := by
      have inside := word.inside first (by simp)
      rw [Bool.eq_false_iff]
      intro space
      simp only [isSpace, Bool.or_eq_true, decide_eq_true_eq] at space
      rcases space with ((rfl | rfl) | rfl) | rfl <;> exact absurd inside (by decide)
    simp [lexemes, CSource.grows, closed, visible]
  have one : Word [first] := ⟨⟨first, [], rfl, opens⟩, fun d member => word.inside d (by simp_all)⟩
  calc lexemes [] (first :: tail ++ [c] ++ rest)
      = lexemes [first] (tail ++ c :: rest) := by rw [← start, List.append_assoc]; rfl
    _ = lexemes (first :: tail) (c :: rest) := lexemes_word one (fun d member => word.inside d (by simp [member])) _
    _ = (first :: tail) :: lexemes [] (c :: rest) := by
      simp only [lexemes, word.ends separates]
      rfl
    _ = (first :: tail) :: ws ++ lexemes [] rest := congrArg ((first :: tail) :: ·) (after rest)

/-! Written pieces -/

/-- The text `cs` adds the tokens `ws` to the line that it is written on. -/
def Reads (cs : List Char) (ws : List Lexeme) : Prop :=
  ∃ l, (∀ rest, logicalLine? (cs ++ rest) = (logicalLine? rest).map (Prod.map (l ++ ·) id)) ∧ Lexes l ws

namespace Reads

variable {cs cs' : List Char} {ws ws' : List Lexeme}

theorem plain (plain : Plain cs) (lexes : Lexes cs ws) : Reads cs ws := ⟨cs, logicalLine?_plain plain, lexes⟩

theorem append (first : Reads cs ws) (second : Reads cs' ws') : Reads (cs ++ cs') (ws ++ ws') := by
  obtain ⟨l, joined, lexes⟩ := first
  obtain ⟨l', joined', lexes'⟩ := second
  refine ⟨l ++ l', fun rest => ?_, lexes.append lexes'⟩
  rw [List.append_assoc, joined, joined', Option.map_map]
  congr
  funext line
  simp [Prod.map]

theorem space : Reads [' '] [] := plain (by simp [Plain]) Lexes.space

theorem continuation : Reads ['\\', '\n'] [] := by
  refine ⟨[], fun rest => ?_, fun rest => rfl⟩
  have skipped : logicalLine? (['\\', '\n'] ++ rest) = logicalLine? rest := rfl
  rw [skipped]
  cases logicalLine? rest <;> rfl

theorem word {w : Lexeme} {c : Char} (word : Word w) (separates : c = ' ' ∨ c = ',') (after : Lexes [c] ws) :
    Reads (w ++ [c]) (w :: ws) := by
  refine plain (fun d member => ?_) (.word word separates after)
  rcases List.mem_append.mp member with inside | last
  · have letter := word.inside d inside
    constructor <;> rintro rfl <;> exact absurd letter (by decide)
  · rcases separates with rfl | rfl <;> simp_all

end Reads

/-! Constants -/

theorem digitIn?_hexDigit : ∀ base ≤ 16, ∀ d < base, digitIn? base (hexDigit d) = some d := by decide

theorem insideName_hexDigit : ∀ d < 16, insideName (hexDigit d) = true := by decide

theorem isDigit_hexDigit : ∀ d < 10, (hexDigit d).isDigit = true := by decide

theorem hexDigit_ne_zero : ∀ d < 10, 0 < d → hexDigit d ≠ '0' := by decide

section

variable {base : Nat} (two : 2 ≤ base) (sixteen : base ≤ 16)

include two in
theorem quotient_lt {fuel n : Nat} (enough : n < 2 ^ (fuel + 1)) : n / base < 2 ^ fuel := by
  have halved : n / base ≤ n / 2 := Nat.div_le_div_left two (by omega)
  rw [Nat.pow_succ] at enough
  omega

include two sixteen in
theorem foldlM_digitsAux {fuel n : Nat} (enough : n < 2 ^ fuel) (acc : List Char) :
    (digitsAux base fuel n acc).foldlM (accumulate base) 0 = acc.foldlM (accumulate base) n := by
  induction fuel generalizing n acc with
  | zero =>
    obtain rfl : n = 0 := by simpa using enough
    rfl
  | succ fuel ih =>
    have digit : digitIn? base (hexDigit (n % base)) = some (n % base) :=
      digitIn?_hexDigit base sixteen _ (Nat.mod_lt _ (by omega))
    simp only [digitsAux]
    split
    · rename_i last
      have small : n % base = n := Nat.mod_eq_of_lt ((Nat.div_eq_zero_iff.mp last).resolve_left (by omega))
      rw [small] at digit
      simp [accumulate, digit, small]
    · rw [ih (quotient_lt two enough)]
      simp [accumulate, digit, Nat.div_add_mod']

include two in
theorem mem_digitsAux {fuel n : Nat} {acc : List Char} {c : Char} (member : c ∈ digitsAux base fuel n acc) :
    (∃ d < base, c = hexDigit d) ∨ c ∈ acc := by
  induction fuel generalizing n acc with
  | zero => exact .inr member
  | succ fuel ih =>
    have added : c ∈ hexDigit (n % base) :: acc → (∃ d < base, c = hexDigit d) ∨ c ∈ acc := by
      intro member
      rcases List.mem_cons.mp member with rfl | old
      · exact .inl ⟨_, Nat.mod_lt _ (by omega), rfl⟩
      · exact .inr old
    simp only [digitsAux] at member
    split at member
    · exact added member
    · rcases ih member with digit | old
      · exact .inl digit
      · exact added old

include two in
theorem digitsAux_head {fuel n : Nat} (positive : 0 < n) (enough : n < 2 ^ fuel) (acc : List Char) :
    ∃ d rest, 0 < d ∧ d < base ∧ digitsAux base fuel n acc = hexDigit d :: rest := by
  induction fuel generalizing n acc with
  | zero => simp at enough; omega
  | succ fuel ih =>
    simp only [digitsAux]
    split
    · rename_i last
      have small := (Nat.div_eq_zero_iff.mp last).resolve_left (by omega)
      exact ⟨n % base, acc, by rwa [Nat.mod_eq_of_lt small], Nat.mod_lt _ (by omega), rfl⟩
    · rename_i more
      exact ih (Nat.pos_of_ne_zero more) (quotient_lt two enough) _

include two sixteen in
theorem natural?_digits (n zeros : Nat) :
    natural? base (List.replicate zeros '0' ++ digits base n) = some n := by
  have zero : accumulate base 0 '0' = some 0 := by
    simp [accumulate, show digitIn? base '0' = some 0 from digitIn?_hexDigit base sixteen 0 (by omega)]
  have skipped : (List.replicate zeros '0').foldlM (accumulate base) 0 = some 0 := by
    induction zeros with
    | zero => rfl
    | succ zeros ih => simpa [List.replicate_succ, zero] using ih
  have value : (digits base n).foldlM (accumulate base) 0 = some n :=
    foldlM_digitsAux two sixteen Nat.lt_log2_self []
  have some_digit : digits base n ≠ [] := by
    intro none
    rw [none] at value
    obtain rfl : 0 = n := by simpa using value
    simp [digits, digitsAux] at none
  rw [natural?, if_neg (by simp [some_digit]), List.foldlM_append, skipped]
  exact value

end

/-- The token `w` is an integer constant of value `n`. -/
structure Constant (w : Lexeme) (n : Nat) : Prop extends Word w where
  value : constant? w = some n

theorem constant_decimal (n : Nat) : Constant (digits 10 n) n := by
  have inside : ∀ c ∈ digits 10 n, insideName c = true := by
    intro c member
    obtain ⟨d, small, rfl⟩ : ∃ d < 10, c = hexDigit d := by simpa using mem_digitsAux (by omega) member
    exact insideName_hexDigit d (by omega)
  have read : natural? 10 (digits 10 n) = some n := natural?_digits (by omega) (by omega) n 0
  obtain rfl | positive := Nat.eq_zero_or_pos n
  · exact ⟨⟨⟨'0', [], rfl, rfl⟩, inside⟩, rfl⟩
  obtain ⟨d, rest, above, below, text⟩ := digitsAux_head (show 2 ≤ 10 by omega) positive Nat.lt_log2_self []
  change digits 10 n = hexDigit d :: rest at text
  refine ⟨⟨⟨_, _, text, by simp [isDigit_hexDigit d below]⟩, inside⟩, ?_⟩
  rw [constant?, read]
  intro c tail octal
  rw [text] at octal
  exact hexDigit_ne_zero d below above (List.cons.inj octal).1

theorem constant_hexadecimal (n zeros : Nat) :
    Constant ('0' :: 'x' :: (List.replicate zeros '0' ++ digits 16 n)) n := by
  refine ⟨⟨⟨_, _, rfl, rfl⟩, fun c member => ?_⟩, natural?_digits (by omega) (by omega) n zeros⟩
  simp only [List.mem_cons, List.mem_append, List.mem_replicate] at member
  rcases member with rfl | rfl | ⟨-, rfl⟩ | digit
  · rfl
  · rfl
  · rfl
  · obtain ⟨d, small, rfl⟩ : ∃ d < 16, c = hexDigit d := by simpa using mem_digitsAux (by omega) digit
    exact insideName_hexDigit d small

/-! Elements -/

/-- The formats of generated arrays and the integers each is for. -/
def Fits (format : String) (x : Int) : Prop :=
  format = "%d" ∨ (format = "0x%02x" ∨ format = "0x%08x") ∧ 0 ≤ x

def ItemFormat.unsigned (f : ItemFormat) (n : Nat) : Lexeme := (f.render n).toList

/-- The format `f` writes `x` as a constant, after a minus sign if `x` is negative. -/
structure Spells (f : ItemFormat) (x : Int) : Prop where
  constant : Constant (f.unsigned x.natAbs) x.natAbs
  natural : 0 ≤ x → (f.render x).toList = f.unsigned x.natAbs
  negative : x < 0 → (f.render x).toList = '-' :: f.unsigned x.natAbs

theorem toList_pushn (c : Char) (n : Nat) : ("".pushn c n).toList = List.replicate n c := by
  induction n with
  | zero => rfl
  | succ n ih =>
    have pushed : "".pushn c (n + 1) = ("".pushn c n).push c := rfl
    rw [pushed, String.toList_push, ih, List.replicate_succ']

theorem unsigned_natAbs (f : ItemFormat) {x : Int} (natural : 0 ≤ x) :
    (f.render x).toList = f.unsigned x.natAbs := by
  rw [ItemFormat.unsigned, Int.natAbs_of_nonneg natural]

theorem spells_decimal (x : Int) : Spells .decimal x := by
  have digits_only (n : Nat) : ItemFormat.decimal.unsigned n = digits 10 n := by
    have sign : ¬ (n : Int) < 0 := by omega
    simp [ItemFormat.unsigned, ItemFormat.decimal, ItemFormat.render, Field.render, sign, toList_pushn]
  refine ⟨?_, unsigned_natAbs _, fun negative => ?_⟩
  · rw [digits_only]
    exact constant_decimal _
  · rw [digits_only]
    simp [ItemFormat.decimal, ItemFormat.render, Field.render, negative, toList_pushn]

theorem spells_hexadecimal (width : Nat) {x : Int} (natural : 0 ≤ x) :
    Spells { lead := "0x", field := { fill := '0', align := .afterSign, width, base := 'x' } } x := by
  refine ⟨?_, unsigned_natAbs _, fun negative => absurd negative (by omega)⟩
  generalize x.natAbs = n
  have sign : ¬ (n : Int) < 0 := by omega
  simpa [ItemFormat.unsigned, ItemFormat.render, Field.render, sign, toList_pushn] using constant_hexadecimal n _

theorem read?_spells {format : String} {items : List Int} (some_item : items ≠ [])
    (fits : ∀ x ∈ items, Fits format x) :
    ∃ f, ItemFormat.read? format = some f ∧ ∀ x ∈ items, Spells f x := by
  obtain ⟨first, member⟩ := List.exists_mem_of_ne_nil items some_item
  rcases fits first member with rfl | ⟨rfl | rfl, -⟩
  · exact ⟨.decimal, rfl, fun x _ => spells_decimal x⟩
  · exact ⟨.hexByte, rfl, fun x member => spells_hexadecimal 2 ((fits x member).resolve_left (by decide)).2⟩
  · exact ⟨.hexWord, rfl, fun x member => spells_hexadecimal 8 ((fits x member).resolve_left (by decide)).2⟩

def group (f : ItemFormat) (x : Int) : List Lexeme :=
  if x < 0 then [['-'], f.unsigned x.natAbs] else [f.unsigned x.natAbs]

namespace Spells

variable {f : ItemFormat} {x : Int} (spells : Spells f x)

include spells

theorem element?_group : element? (group f x) = some x := by
  unfold group
  split
  · rw [element?, spells.constant.value, Option.map_some]
    congr
    omega
  · rw [element?, spells.constant.value, Option.map_some]
    congr
    omega

theorem comma_not_mem_group : [','] ∉ group f x := by
  have outside : [','] ≠ f.unsigned x.natAbs := by
    intro same
    exact absurd (spells.constant.inside ',' (by rw [← same]; simp)) (by decide)
  unfold group
  split <;> simp [outside]

theorem reads {c : Char} {ws : List Lexeme} (separates : c = ' ' ∨ c = ',') (after : Lexes [c] ws) :
    Reads ((f.render x).toList ++ [c]) (group f x ++ ws) := by
  have unsigned : Reads (f.unsigned x.natAbs ++ [c]) (f.unsigned x.natAbs :: ws) :=
    .word spells.constant.toWord separates after
  by_cases negative : x < 0
  · have sign : Reads ['-'] [['-']] := .plain (by simp [Plain]) (.mark rfl fun _ => rfl)
    rw [spells.negative negative, group, if_pos negative]
    exact sign.append unsigned
  · rw [spells.natural (by omega), group, if_neg negative]
    exact unsigned

end Spells

/-! The whole definition -/

theorem appendItems_reads {f : ItemFormat} (columns : Nat) {n i : Nat} {items : List Int} (acc : String)
    (some_item : items ≠ []) (spells : ∀ x ∈ items, Spells f x) (total : i + items.length = n) :
    ∃ cs, (appendItems f columns n i items acc).toList ++ [' '] = acc.toList ++ cs ∧
      Reads cs ([[',']].intercalate (items.map (group f))) := by
  induction items generalizing i acc with
  | nil => exact absurd rfl some_item
  | cons x items ih =>
    have here := spells x (by simp)
    cases items with
    | nil =>
      have last : itemEnd columns n (i + 1) = "" := by simp_all [itemEnd]
      refine ⟨(f.render x).toList ++ [' '], by simp [appendItems, last], ?_⟩
      simpa using here.reads (.inl rfl) Lexes.space
    | cons y items =>
      obtain ⟨cs, text, reads⟩ := ih (i := i + 1) (acc ++ f.render x ++ itemEnd columns n (i + 1)) (by simp)
        (fun z member => spells z (by simp_all)) (by simp_all; omega)
      refine ⟨(f.render x).toList ++ (itemEnd columns n (i + 1)).toList ++ cs, ?_, ?_⟩
      · rw [appendItems, text]
        simp
      have comma := here.reads (.inr rfl) Lexes.comma
      have more : i + 1 < n := by simp at total; omega
      -- the separator is a comma and a space, with a continued line after every `columns` elements
      have separated : Reads ((f.render x).toList ++ (itemEnd columns n (i + 1)).toList) (group f x ++ [[',']]) := by
        rw [itemEnd, if_pos more]
        split
        · simpa using comma.append (.append .space (.append .continuation (.append .space .space)))
        · simpa using comma.append .space
      simpa [List.intercalate_cons_cons] using separated.append reads

theorem Word.of_isIdentifier {w : Lexeme} (identifier : isIdentifier w = true) : Word w := by
  cases w with
  | nil => cases identifier
  | cons c rest =>
    simp only [isIdentifier, Bool.and_eq_true, List.all_eq_true] at identifier
    refine ⟨⟨c, rest, rfl, by simp [identifier.1]⟩, fun d member => ?_⟩
    rcases List.mem_cons.mp member with rfl | inside
    · have opens := identifier.1
      simp only [opensName, insideName, Char.isAlphanum, Bool.or_eq_true] at opens ⊢
      exact opens.imp_left .inl
    · exact identifier.2 d inside

theorem head_reads {name : String} (named : isIdentifier name.toList = true) :
    Reads s!"#define {name} \x7b \\\n  ".toList
      [['#'], ['d', 'e', 'f', 'i', 'n', 'e'], name.toList, ['\x7b']] := by
  have hash : Reads ['#'] [['#']] := .plain (by simp [Plain]) (.mark rfl fun _ => rfl)
  have directive : Reads ['d', 'e', 'f', 'i', 'n', 'e', ' '] [['d', 'e', 'f', 'i', 'n', 'e']] :=
    Reads.word (w := ['d', 'e', 'f', 'i', 'n', 'e']) (.of_isIdentifier rfl) (.inl rfl) .space
  have naming : Reads (name.toList ++ [' ']) [name.toList] := .word (.of_isIdentifier named) (.inl rfl) .space
  have brace : Reads ['\x7b'] [['\x7b']] := .plain (by simp [Plain]) (.mark rfl fun _ => rfl)
  have broken : Reads [' ', '\\', '\n', ' ', ' '] [] :=
    .append .space (.append .continuation (.append .space .space))
  simpa [toString] using hash.append (directive.append (naming.append (brace.append broken)))

theorem initializer?_groups {f : ItemFormat} {items : List Int} (some_item : items ≠ [])
    (spells : ∀ x ∈ items, Spells f x) :
    initializer? (['\x7b'] :: ([[',']].intercalate (items.map (group f)) ++ [['\x7d']])) = some items := by
  have apart : ∀ g ∈ items.map (group f), [','] ∉ g := by
    intro g member
    obtain ⟨x, inside, rfl⟩ := List.mem_map.mp member
    exact (spells x inside).comma_not_mem_group
  have elements : (items.map (group f)).mapM element? = some items := by
    clear some_item apart
    induction items with
    | nil => rfl
    | cons x items ih =>
      simp [(spells x (by simp)).element?_group, ih fun y member => spells y (by simp [member])]
  rw [initializer?, if_pos (by simp), List.dropLast_concat,
    List.splitOn_intercalate _ apart (by simpa using some_item), elements]

theorem readDefinition?_arrayDefine {name : String} {f : ItemFormat} {items : List Int}
    (named : isIdentifier name.toList = true) (some_item : items ≠ []) (spells : ∀ x ∈ items, Spells f x)
    (columns : Nat) (rest : String) :
    readDefinition? (arrayDefine name f columns items ++ rest) = some (⟨name, items⟩, rest) := by
  obtain ⟨cs, text, reads⟩ := appendItems_reads columns s!"#define {name} \x7b \\\n  " some_item spells (Nat.zero_add _)
  obtain ⟨l, joined, lexes⟩ := (head_reads named).append (reads.append .continuation)
  have written : (arrayDefine name f columns items ++ rest).toList =
      s!"#define {name} \x7b \\\n  ".toList ++ (cs ++ ['\\', '\n']) ++ '\x7d' :: '\n' :: rest.toList := by
    rw [arrayDefine, ← List.append_assoc, ← text]
    simp
  have line : logicalLine? (arrayDefine name f columns items ++ rest).toList = some (l ++ ['\x7d'], rest.toList) := by
    rw [written, joined]
    rfl
  have tokens := lexes ['\x7d']
  rw [readDefinition?, line, Option.bind_some, tokens]
  have brace : lexemes [] ['\x7d'] = [['\x7d']] := rfl
  simp only [brace, List.append_nil, List.cons_append, List.nil_append]
  simp [arrayDefinition?, named, initializer?_groups some_item spells]

/-- A generated array definition reads back as its name and its items in order, and ends with the
line of its closing brace, whatever text follows. -/
theorem defineArray_reads_back {name format : String} {columns : Int} {items : List Int}
    (named : isIdentifier name.toList = true) (some_item : items ≠ []) (fits : ∀ x ∈ items, Fits format x)
    (column : 1 ≤ columns) (out : Sink) (before : Session) :
    ∃ text after, (defineArray (some out) name format columns items).run before = .ok () after ∧
      Emits out text before after ∧ (∃ lines, text = lines ++ "\\\n\x7d\n") ∧
      ∀ rest, readDefinition? (text ++ rest) = some (⟨name, items⟩, rest) := by
  obtain ⟨f, read, spells⟩ := read?_spells some_item fits
  refine ⟨arrayDefine name f columns.natAbs items, _, ?_, Emits.append before out _, ?_,
    readDefinition?_arrayDefine named some_item spells _⟩
  · have divides : (decide (columns = 0) && decide (items.length > 1)) = false := by
      rw [decide_eq_false (by omega), Bool.false_and]
    rw [defineArray, read, divides]
    rfl
  · refine ⟨appendItems f columns.natAbs items.length 0 items s!"#define {name} \x7b \\\n  " ++ " ", ?_⟩
    rw [String.append_assoc]
    rfl

theorem written_weights_read_back :
    isIdentifier "WEIGHTS_0".toList = true ∧ [-128, 0, 7, 10] ≠ [] ∧
      (∀ x ∈ [-128, 0, 7, 10], Fits "%d" x) ∧ (1 : Int) ≤ 2 ∧
      ∃ text after, (defineArray (some (.stream "weights")) "WEIGHTS_0" "%d" 2 [-128, 0, 7, 10]).run {} = .ok () after ∧
        Emits (.stream "weights") text {} after ∧ (∃ lines, text = lines ++ "\\\n\x7d\n") ∧
        ∀ rest, readDefinition? (text ++ rest) = some (⟨"WEIGHTS_0", [-128, 0, 7, 10]⟩, rest) :=
  ⟨rfl, by simp, fun _ _ => .inl rfl, by omega,
    defineArray_reads_back rfl (by simp) (fun _ _ => .inl rfl) (by omega) _ _⟩

end CnnForge.CSource
