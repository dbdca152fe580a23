import TortoiseWow.Lib.CString

/-!
`Tokenizer` of src/shared/Util.cpp. The text is cut at every separator up to the
terminating NUL. A last token that is empty is not stored, so a trailing
separator does not count as one more token; empty tokens elsewhere are kept.
The third constructor argument only reserves memory and has no counterpart.
-/

namespace TortoiseWow

open Lib

/-- The loop of the constructor: `posold` is the text since the last separator. -/
def tokenizerLoop (sep : Char) : CString → CString → List CString
  | posold, [] => if posold.isEmpty then [] else [posold]
  | posold, c :: rest =>
      if c == sep then posold :: tokenizerLoop sep [] rest
      else tokenizerLoop sep (posold ++ [c]) rest

def tokenizer (src : CString) (sep : Char) : List CString :=
  tokenizerLoop sep [] (cstr src)

end TortoiseWow
