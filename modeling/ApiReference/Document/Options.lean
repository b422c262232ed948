/-! The texts of a document that do not come from the symbols. -/

namespace ApiReference

structure DocumentOptions where
  title : String
  intro : String
  fence : String
  marker : String
  placeholder : String
  deriving DecidableEq, Repr

def DocumentOptions.forModule (name : String) : DocumentOptions where
  title := name ++ " Public API Reference"
  intro := "This document describes the public API surface of the `" ++ name ++ "` module."
  fence := "swift"
  marker := ":nodoc:"
  placeholder := "*Not documented.*"

end ApiReference
