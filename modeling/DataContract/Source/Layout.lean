/-!
# Layout of source text

The choices that a configuration leaves open when a source tree is written.  None of them changes
what the text means.
-/

namespace DataContract.Source

/-- How source text is laid out: the text that indents by one level, whether methods are
documented, and whether the text begins with the header of generated files. -/
structure Layout where
  indent : String
  docComments : Bool
  header : Bool
  deriving DecidableEq, Repr

/-- The layout by default. -/
def Layout.standard : Layout := ⟨"\t", true, true⟩

end DataContract.Source
