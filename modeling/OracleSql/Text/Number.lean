set_option autoImplicit false

namespace OracleSql.Text

def digitValue (c : Char) : Nat :=
  c.toNat - '0'.toNat

def ofDigits (cs : List Char) : Nat :=
  cs.foldl (fun n c => 10 * n + digitValue c) 0

def digits? (cs : List Char) : Option Nat :=
  if cs ≠ [] ∧ cs.all Char.isDigit then some (ofDigits cs) else none

theorem digits?_isSome_iff (cs : List Char) :
    (digits? cs).isSome ↔ cs ≠ [] ∧ cs.all Char.isDigit := by
  unfold digits?
  split <;> simp_all

def natural? : List Char → Option Nat
  | '+' :: cs => digits? cs
  | cs => digits? cs

def integer? : List Char → Option Int
  | '-' :: cs => (digits? cs).map fun n => -(n : Int)
  | cs => (natural? cs).map Int.ofNat

/-- The numbers of `bits` bits, with or without a sign. -/
structure Width where
  signed : Bool
  bits : Nat

def Width.least (w : Width) : Int :=
  if w.signed then -(Nat.pow 2 (w.bits - 1) : Nat) else 0

def Width.bound (w : Width) : Int :=
  (Nat.pow 2 (if w.signed then w.bits - 1 else w.bits) : Nat)

def Width.holds (w : Width) (n : Int) : Bool :=
  decide (w.least ≤ n) && decide (n < w.bound)

def int32 : Width := ⟨true, 32⟩
def int64 : Width := ⟨true, 64⟩
def word32 : Width := ⟨false, 32⟩
def word64 : Width := ⟨false, 64⟩

theorem word32_holds_iff (n : Int) : word32.holds n = true ↔ 0 ≤ n ∧ n < 4294967296 := by
  simp [Width.holds, Width.least, Width.bound, word32]

theorem int64_holds_iff (n : Int) :
    int64.holds n = true ↔ -9223372036854775808 ≤ n ∧ n < 9223372036854775808 := by
  simp [Width.holds, Width.least, Width.bound, int64]

theorem word64_holds_iff (n : Int) :
    word64.holds n = true ↔ 0 ≤ n ∧ n < 18446744073709551616 := by
  simp [Width.holds, Width.least, Width.bound, word64]

-- Sums beyond 64 bits wrap around.
def wrapInt64 (n : Int) : Int :=
  n.bmod 18446744073709551616

theorem wrapInt64_of_holds {n : Int} (fits : int64.holds n = true) : wrapInt64 n = n := by
  rw [int64_holds_iff] at fits
  rw [wrapInt64, Int.bmod_def]
  omega

def Width.read? (w : Width) (cs : List Char) : Option Int :=
  let n := if w.signed then integer? cs else (natural? cs).map Int.ofNat
  n.filter w.holds

theorem Width.holds_of_read? {w : Width} {cs : List Char} {n : Int} (h : w.read? cs = some n) :
    w.holds n = true := by
  simp only [Width.read?, Option.filter_eq_some_iff] at h
  exact h.2

end OracleSql.Text
