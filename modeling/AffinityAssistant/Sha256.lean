import Mathlib.Data.List.Basic

set_option autoImplicit false

/-!
# `crypto/sha256.Sum256` and `fmt.Sprintf("%x", ...)`

The digest that names an affinity assistant. Words are natural numbers below `2^32`,
reduced after every addition, and every recursion is structural, so that `decide`
evaluates the digest of a short name.
-/
namespace AffinityAssistant.Sha256

def word : Nat := 4294967296

def rotr (n x : Nat) : Nat := (x >>> n) ||| ((x <<< (32 - n)) % word)

def bigSigma0 (x : Nat) : Nat := rotr 2 x ^^^ rotr 13 x ^^^ rotr 22 x
def bigSigma1 (x : Nat) : Nat := rotr 6 x ^^^ rotr 11 x ^^^ rotr 25 x
def smallSigma0 (x : Nat) : Nat := rotr 7 x ^^^ rotr 18 x ^^^ (x >>> 3)
def smallSigma1 (x : Nat) : Nat := rotr 17 x ^^^ rotr 19 x ^^^ (x >>> 10)
def ch (x y z : Nat) : Nat := (x &&& y) ^^^ ((word - 1 - x) &&& z)
def maj (x y z : Nat) : Nat := (x &&& y) ^^^ (x &&& z) ^^^ (y &&& z)

def roundConstants : List Nat :=
  [0x428a2f98, 0x71374491, 0xb5c0fbcf, 0xe9b5dba5, 0x3956c25b, 0x59f111f1, 0x923f82a4, 0xab1c5ed5,
   0xd807aa98, 0x12835b01, 0x243185be, 0x550c7dc3, 0x72be5d74, 0x80deb1fe, 0x9bdc06a7, 0xc19bf174,
   0xe49b69c1, 0xefbe4786, 0x0fc19dc6, 0x240ca1cc, 0x2de92c6f, 0x4a7484aa, 0x5cb0a9dc, 0x76f988da,
   0x983e5152, 0xa831c66d, 0xb00327c8, 0xbf597fc7, 0xc6e00bf3, 0xd5a79147, 0x06ca6351, 0x14292967,
   0x27b70a85, 0x2e1b2138, 0x4d2c6dfc, 0x53380d13, 0x650a7354, 0x766a0abb, 0x81c2c92e, 0x92722c85,
   0xa2bfe8a1, 0xa81a664b, 0xc24b8b70, 0xc76c51a3, 0xd192e819, 0xd6990624, 0xf40e3585, 0x106aa070,
   0x19a4c116, 0x1e376c08, 0x2748774c, 0x34b0bcb5, 0x391c0cb3, 0x4ed8aa4a, 0x5b9cca4f, 0x682e6ff3,
   0x748f82ee, 0x78a5636f, 0x84c87814, 0x8cc70208, 0x90befffa, 0xa4506ceb, 0xbef9a3f7, 0xc67178f2]

def initialHash : List Nat :=
  [0x6a09e667, 0xbb67ae85, 0x3c6ef372, 0xa54ff53a, 0x510e527f, 0x9b05688c, 0x1f83d9ab, 0x5be0cd19]

def schedule : Nat → List Nat → List Nat
  | 0, w => w
  | n + 1, w =>
    let t := w.length
    schedule n (w ++ [(smallSigma1 (w.getD (t - 2) 0) + w.getD (t - 7) 0 +
      smallSigma0 (w.getD (t - 15) 0) + w.getD (t - 16) 0) % word])

structure Working where
  a : Nat
  b : Nat
  c : Nat
  d : Nat
  e : Nat
  f : Nat
  g : Nat
  h : Nat

def round (s : Working) (kw : Nat × Nat) : Working :=
  let t1 := (s.h + bigSigma1 s.e + ch s.e s.f s.g + kw.1 + kw.2) % word
  let t2 := (bigSigma0 s.a + maj s.a s.b s.c) % word
  ⟨(t1 + t2) % word, s.a, s.b, s.c, (s.d + t1) % word, s.e, s.f, s.g⟩

def wordsOfBytes : List Nat → List Nat
  | b0 :: b1 :: b2 :: b3 :: rest => (b0 * 16777216 + b1 * 65536 + b2 * 256 + b3) :: wordsOfBytes rest
  | _ => []

def compress (hv block : List Nat) : List Nat :=
  let w := schedule 48 (wordsOfBytes block)
  let s0 : Working := ⟨hv.getD 0 0, hv.getD 1 0, hv.getD 2 0, hv.getD 3 0,
    hv.getD 4 0, hv.getD 5 0, hv.getD 6 0, hv.getD 7 0⟩
  let s := (roundConstants.zip w).foldl round s0
  List.zipWith (fun x y => (x + y) % word) hv [s.a, s.b, s.c, s.d, s.e, s.f, s.g, s.h]

def lengthBytes (bits : Nat) : List Nat :=
  (List.range 8).reverse.map (fun i => (bits >>> (8 * i)) % 256)

def pad (msg : List Nat) : List Nat :=
  msg ++ [0x80] ++ List.replicate ((119 - msg.length % 64) % 64) 0 ++ lengthBytes (8 * msg.length)

def blocks : Nat → List Nat → List (List Nat)
  | 0, _ => []
  | n + 1, bs => bs.take 64 :: blocks n (bs.drop 64)

/-- `sha256.Sum256`: the 32 bytes of the digest. -/
def sum256 (msg : List Nat) : List Nat :=
  let p := pad msg
  ((blocks (p.length / 64) p).foldl compress initialHash).flatMap
    (fun x => [x >>> 24, (x >>> 16) % 256, (x >>> 8) % 256, x % 256])

def hexDigit (n : Nat) : Char := if n < 10 then Char.ofNat (48 + n) else Char.ofNat (87 + n)

def sprintfHex (bs : List Nat) : String :=
  String.mk (bs.flatMap (fun b => [hexDigit (b / 16), hexDigit (b % 16)]))

def bytesOf (s : String) : List Nat := (s.data.flatMap String.utf8EncodeChar).map UInt8.toNat

theorem lt_word_of_mem_zipWith {l₁ l₂ : List Nat} {x : Nat}
    (h : x ∈ List.zipWith (fun a b => (a + b) % word) l₁ l₂) : x < word := by
  induction l₁ generalizing l₂ with
  | nil => simp at h
  | cons a l₁ ih =>
    cases l₂ with
    | nil => simp at h
    | cons b l₂ =>
      rcases List.mem_cons.mp h with rfl | h
      · exact Nat.mod_lt _ (by decide)
      · exact ih h

theorem foldl_compress (bs : List (List Nat)) :
    (bs.foldl compress initialHash).length = 8 ∧ ∀ x ∈ bs.foldl compress initialHash, x < word := by
  suffices ∀ hv : List Nat, hv.length = 8 → (∀ x ∈ hv, x < word) →
      (bs.foldl compress hv).length = 8 ∧ ∀ x ∈ bs.foldl compress hv, x < word from
    this _ rfl (by decide)
  induction bs with
  | nil => exact fun hv hl hw => ⟨hl, hw⟩
  | cons b bs ih =>
    intro hv hl _
    exact ih _ (by simp [compress, hl]) fun x hx => lt_word_of_mem_zipWith hx

theorem flatMap_length_const {α β : Type} (f : α → List β) (k : Nat) (h : ∀ a, (f a).length = k) :
    ∀ l : List α, (l.flatMap f).length = k * l.length
  | [] => rfl
  | a :: l => by rw [List.flatMap_cons, List.length_append, h, flatMap_length_const f k h l,
      List.length_cons, Nat.mul_succ, Nat.add_comm]

theorem sum256_spec (msg : List Nat) : (sum256 msg).length = 32 ∧ ∀ b ∈ sum256 msg, b < 256 := by
  obtain ⟨hl, hw⟩ := foldl_compress (blocks ((pad msg).length / 64) (pad msg))
  refine ⟨by rw [sum256, flatMap_length_const (fun x => [x >>> 24, (x >>> 16) % 256, (x >>> 8) % 256,
    x % 256]) 4 (fun _ => rfl), hl], fun b hb => ?_⟩
  obtain ⟨x, hx, hb⟩ := List.mem_flatMap.mp hb
  have hx := hw x hx
  simp only [List.mem_cons, List.mem_singleton, List.not_mem_nil, or_false] at hb
  rcases hb with rfl | rfl | rfl | rfl
  · rw [Nat.shiftRight_eq_div_pow]; unfold word at hx; omega
  all_goals exact Nat.mod_lt _ (by decide)

def hexDigits : List Char := "0123456789abcdef".data

theorem hexDigit_mem {n : Nat} (h : n < 16) : hexDigit n ∈ hexDigits := by
  revert n; decide

theorem sprintfHex_spec {bs : List Nat} (h : ∀ b ∈ bs, b < 256) :
    (sprintfHex bs).length = 2 * bs.length ∧ ∀ c ∈ (sprintfHex bs).data, c ∈ hexDigits := by
  refine ⟨flatMap_length_const (fun b => [hexDigit (b / 16), hexDigit (b % 16)]) 2 (fun _ => rfl) bs,
    fun c hc => ?_⟩
  obtain ⟨b, hb, hc⟩ := List.mem_flatMap.mp hc
  have hb := h b hb
  simp only [List.mem_cons, List.mem_singleton, List.not_mem_nil, or_false] at hc
  rcases hc with rfl | rfl
  · exact hexDigit_mem (by omega)
  · exact hexDigit_mem (Nat.mod_lt _ (by decide))

set_option maxRecDepth 20000 in
example : (sprintfHex (sum256 (bytesOf "abc"))).take 10 = "ba7816bf8f" := by decide

end AffinityAssistant.Sha256
