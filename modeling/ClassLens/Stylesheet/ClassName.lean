import ClassLens.Text.Basic
/-
  Class names — what a stylesheet may call a class

  A class name is a letter, an underscore or a hyphen, followed by any number
  of letters, digits, underscores and hyphens, all of them ASCII.
-/

namespace ClassLens

namespace ClassName

/-- Whether a character may begin a class name. -/
def isStart (c : Char) : Bool := c.isAlpha || c = '_' || c = '-'

/-- Whether a character may stand in a class name behind its start. -/
def isPart (c : Char) : Bool := c.isAlphanum || c = '_' || c = '-'

/-- Whether a text is a class name. -/
def isValid : Text → Bool
  | [] => false
  | c :: cs => isStart c && cs.all isPart

/-- The longest class name a text begins with. -/
def leading? : Text → Option Text
  | [] => none
  | c :: cs => if isStart c then some (c :: cs.takeWhile isPart) else none

theorem isValid_of_leading? {cs name : Text} (h : leading? cs = some name) :
    isValid name = true := by
  cases cs with
  | nil => simp [leading?] at h
  | cons c rest =>
    by_cases hc : isStart c = true
    · simp only [leading?, hc, if_true, Option.some.injEq] at h
      subst h
      simp [isValid, hc, List.all_takeWhile]
    · simp [leading?, hc] at h

end ClassName

end ClassLens
