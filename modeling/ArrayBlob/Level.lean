import ArrayBlob.Fault

/-!
# Compression levels

A level is a number from 0 to 9. Level 0 stands for no compression.
-/

namespace ArrayBlob

/-- A compression level. -/
structure Level where
  toNat : Nat
  le_nine : toNat ≤ 9 := by decide
  deriving DecidableEq, Repr

namespace Level

/-- No compression. -/
def none : Level := ⟨0, by decide⟩

/-- The fastest compression. -/
def fast : Level := ⟨1, by decide⟩

/-- The best compression. -/
def best : Level := ⟨9, by decide⟩

/-- The level with a number, when the number is in range. -/
def ofInt? (number : Int) : Option Level :=
  if h : 0 ≤ number ∧ number ≤ 9 then some ⟨number.toNat, by omega⟩ else Option.none

/-- The level with a number; one out of range is refused. -/
def ofInt (number : Int) : Except Fault Level :=
  match ofInt? number with
  | some level => .ok level
  | Option.none => .error (.invalidLevel number 0 9)

/-- The level stands for no compression. -/
def isNone (level : Level) : Bool :=
  level.toNat = 0

@[simp]
theorem ofInt?_toNat (level : Level) : ofInt? level.toNat = some level := by
  have := level.le_nine
  simp [ofInt?]
  omega

end Level
end ArrayBlob
