/-!
# Comparing texts without regard to ASCII case
-/

namespace CustomProperties.Text

/-- Whether two texts are the same but for the case of ASCII letters. -/
def sameLetters (a b : String) : Bool := a.toList.map Char.toLower == b.toList.map Char.toLower

@[simp] theorem sameLetters_self (a : String) : sameLetters a a = true := by simp [sameLetters]

end CustomProperties.Text
