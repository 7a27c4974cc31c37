import CnnForge.Text.Digits

namespace CnnForge.Text.Digest

attribute [local instance (2000)] instPowNat

structure State where
  a : UInt32 := 0x67452301
  b : UInt32 := 0xefcdab89
  c : UInt32 := 0x98badcfe
  d : UInt32 := 0x10325476
deriving Repr, DecidableEq, Inhabited

def rotations : Array (Array UInt32) :=
  #[#[7, 12, 17, 22], #[5, 9, 14, 20], #[4, 11, 16, 23], #[6, 10, 15, 21]]

def sines : Array UInt32 :=
  #[0xd76aa478, 0xe8c7b756, 0x242070db, 0xc1bdceee, 0xf57c0faf, 0x4787c62a, 0xa8304613, 0xfd469501,
    0x698098d8, 0x8b44f7af, 0xffff5bb1, 0x895cd7be, 0x6b901122, 0xfd987193, 0xa679438e, 0x49b40821,
    0xf61e2562, 0xc040b340, 0x265e5a51, 0xe9b6c7aa, 0xd62f105d, 0x02441453, 0xd8a1e681, 0xe7d3fbc8,
    0x21e1cde6, 0xc33707d6, 0xf4d50d87, 0x455a14ed, 0xa9e3e905, 0xfcefa3f8, 0x676f02d9, 0x8d2a4c8a,
    0xfffa3942, 0x8771f681, 0x6d9d6122, 0xfde5380c, 0xa4beea44, 0x4bdecfa9, 0xf6bb4b60, 0xbebfbc70,
    0x289b7ec6, 0xeaa127fa, 0xd4ef3085, 0x04881d05, 0xd9d4d039, 0xe6db99e5, 0x1fa27cf8, 0xc4ac5665,
    0xf4292244, 0x432aff97, 0xab9423a7, 0xfc93a039, 0x655b59c3, 0x8f0ccc92, 0xffeff47d, 0x85845dd1,
    0x6fa87e4f, 0xfe2ce6e0, 0xa3014314, 0x4e0811a1, 0xf7537e82, 0xbd3af235, 0x2ad7d2bb, 0xeb86d391]

def rotate (x n : UInt32) : UInt32 := x <<< n ||| x >>> (32 - n)

def mix (s : State) (i : Nat) : UInt32 × Nat :=
  if i < 16 then ((s.b &&& s.c) ||| (~~~s.b &&& s.d), i)
  else if i < 32 then ((s.d &&& s.b) ||| (~~~s.d &&& s.c), (5 * i + 1) % 16)
  else if i < 48 then (s.b ^^^ s.c ^^^ s.d, (3 * i + 5) % 16)
  else (s.c ^^^ (s.b ||| ~~~s.d), 7 * i % 16)

def step (block : Array UInt32) (s : State) (i : Nat) : State :=
  let (f, word) := mix s i
  let sum := f + s.a + sines.getD i 0 + block.getD word 0
  let turn := (rotations.getD (i / 16) #[]).getD (i % 4) 0
  ⟨s.d, s.b + rotate sum turn, s.b, s.c⟩

def absorb (s : State) (block : Array UInt32) : State :=
  let t := (List.range 64).foldl (step block) s
  ⟨s.a + t.a, s.b + t.b, s.c + t.c, s.d + t.d⟩

def littleEndian (count n : Nat) : List Nat := (List.range count).map fun i => n / 256 ^ i % 256

def padded (bytes : List Nat) : Array Nat :=
  let zeros := (119 - bytes.length % 64) % 64
  (bytes ++ 0x80 :: List.replicate zeros 0 ++ littleEndian 8 (8 * bytes.length)).toArray

def blockAt (bytes : Array Nat) (i : Nat) : Array UInt32 :=
  Array.ofFn fun k : Fin 16 =>
    let at_ (j : Nat) : Nat := bytes.getD (64 * i + 4 * k + j) 0
    UInt32.ofNat (at_ 0 + 256 * (at_ 1 + 256 * (at_ 2 + 256 * at_ 3)))

def ofBytes (bytes : List Nat) : String :=
  let all := padded bytes
  let s := (List.range (all.size / 64)).foldl (fun s i => absorb s (blockAt all i)) {}
  String.join <| [s.a, s.b, s.c, s.d].flatMap fun w =>
    (littleEndian 4 w.toNat).map fun (b : Nat) => hex 2 b

def ofText (s : String) : String := ofBytes (s.toUTF8.toList.map UInt8.toNat)

end CnnForge.Text.Digest
