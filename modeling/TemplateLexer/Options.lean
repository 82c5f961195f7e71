/-!
# Markers and delimiters

What introduces a directive and what surrounds an action can be chosen. A choice is three texts; an
empty text stands for the default. `Options.normalized` settles that and gives `Delimiters`, in
which no text is empty, and from there on nothing has to ask again.
-/

namespace TemplateLexer

/-- A choice of marker and delimiters, as it was given. -/
structure Options where
  marker : List Char := ['@']
  left : List Char := ['\x7b', '\x7b']
  right : List Char := ['\x7d', '\x7d']
deriving DecidableEq, Repr

/-- The marker and delimiters of a lexer; none of them is empty. -/
structure Delimiters where
  marker : List Char
  left : List Char
  right : List Char
  marker_ne : marker ≠ []
  left_ne : left ≠ []
  right_ne : right ≠ []
deriving DecidableEq

namespace Options

/-- The choice that is made when nothing is said. -/
def default : Options := {}

instance : Inhabited Options := ⟨default⟩

/-- A text, or the one that stands in for an empty one. -/
def orElse (fallback text : List Char) : List Char := if text.isEmpty then fallback else text

theorem orElse_ne_nil {fallback text : List Char} (h : fallback ≠ []) :
    orElse fallback text ≠ [] := by
  unfold orElse
  split
  · exact h
  · next ht => simpa using ht

/-- The marker and delimiters that a choice stands for. -/
def normalized (o : Options) : Delimiters where
  marker := orElse default.marker o.marker
  left := orElse default.left o.left
  right := orElse default.right o.right
  marker_ne := orElse_ne_nil (by decide)
  left_ne := orElse_ne_nil (by decide)
  right_ne := orElse_ne_nil (by decide)

def withMarker (o : Options) (marker : List Char) : Options := { o with marker }

def withLeft (o : Options) (left : List Char) : Options := { o with left }

def withRight (o : Options) (right : List Char) : Options := { o with right }

end Options

end TemplateLexer
