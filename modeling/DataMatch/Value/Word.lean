/-! Integers as machine words of 64 bits. An integer is held by a signed word, by an unsigned word,
or by either, and two integers are compared as the words that hold them. -/
namespace DataMatch.Word

def Fits (n : Int) : Prop := -(Nat.pow 2 63 : Nat) ≤ n ∧ n < (Nat.pow 2 64 : Nat)

def signed? (n : Int) : Option Int64 :=
  if -(Nat.pow 2 63 : Nat) ≤ n ∧ n < (Nat.pow 2 63 : Nat) then some (Int64.ofInt n) else none

def unsigned? (n : Int) : Option UInt64 :=
  if 0 ≤ n ∧ n < (Nat.pow 2 64 : Nat) then some (UInt64.ofNat n.toNat) else none

def toUnsigned? (w : Int64) : Option UInt64 := if w < 0 then none else some w.toUInt64

/-- The order of two integers by their words: two signed ones, two unsigned ones, or one of each,
where a negative word is below every unsigned one. -/
def order? (m n : Int) : Option Ordering :=
  match signed? m, signed? n with
  | some v, some w => some (compare v w)
  | _, _ =>
    match unsigned? m, unsigned? n with
    | some v, some w => some (compare v w)
    | _, _ =>
      match signed? m, unsigned? n with
      | some v, some w => some ((toUnsigned? v).elim .lt (compare · w))
      | _, _ =>
        match unsigned? m, signed? n with
        | some v, some w => some ((toUnsigned? w).elim .gt (compare v ·))
        | _, _ => none

end DataMatch.Word
