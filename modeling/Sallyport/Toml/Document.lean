/-
Whole documents. Headers decide where the definitions after them belong; the lines of a document are
gone through in order, and one that does not fit with those before makes the document malformed.
-/
import Sallyport.Toml.Reader

namespace Sallyport.Toml

/-- The document so far and the path of the last header. -/
structure Draft where
  root : Node
  current : List String

namespace Draft

/-- A document without lines. -/
def blank : Draft := ⟨.table .header [], []⟩

def add (d : Draft) : Line → Option Draft
  | .header path => (d.root.openTable path).map (⟨·, path⟩)
  | .item path => (d.root.openItem path).map (⟨·, path⟩)
  | .definition path value =>
    (Node.within .byHeader (Node.define path value) d.current d.root).map (⟨·, d.current⟩)

end Draft

/-- A byte order mark may stand in front of a document. -/
def skipMark : List Char → List Char
  | '\ufeff' :: s => s
  | s => s

/-- The document that a text is, as a table. -/
def document? (text : String) : Option Node := do
  let lines ← lines? (skipMark text.toList)
  let draft ← lines.foldlM Draft.add Draft.blank
  return draft.root

end Sallyport.Toml
