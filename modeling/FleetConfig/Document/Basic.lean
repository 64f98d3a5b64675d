import FleetConfig.Document.Context
import FleetConfig.Toml.Document
import FleetConfig.Toml.Excerpt
import FleetConfig.Toml.Printer

/-!
# Documents

Contracts and execution contexts are kept in TOML documents. What is written can be read back; what
says nothing is pruned before it is written.

## Main definitions

* `Document` — what a kind of document needs to be kept.
* `Document.parse`, `Document.print` — documents as text.
-/

namespace FleetConfig

/-- A kind of data that is kept in a document. -/
class Document (δ : Type) where
  /-- What the data is called in reports. -/
  label : String
  /-- The data of a missing document. -/
  empty : δ
  /-- Takes the data from a document. -/
  decode : Toml.Decoder δ
  /-- The document of the data. -/
  encode : δ → Toml.Tree.Entries
  /-- The data without what says nothing. -/
  prune : δ → δ
  /-- Data can be compared. -/
  decEq : DecidableEq δ

namespace Document

instance : Document Contract where
  label := "config"
  empty := {}
  decode := Contract.decode
  encode := Contract.encode
  prune := Contract.prune
  decEq := inferInstance

instance : Document Context where
  label := "execution context"
  empty := {}
  decode := Context.decode
  encode := Context.encode
  prune := id
  decEq := inferInstance

variable {δ : Type} [Document δ]

/-- The data in a text without a mark of byte order. -/
def parseChars (cs : List Char) : Except Toml.Fault δ := do
  let es ← Toml.parse cs
  Document.decode cs.length (.table .header (some cs.length) es)

/-- The data in a text, or the report of what is wrong with the text. -/
def parse (s : String) : Except String δ :=
  let cs := Toml.skipByteOrderMark s.toList
  (parseChars cs).mapError fun fault => fault.message cs

/-- The text of data. -/
def print (d : δ) : String := Toml.print (Document.encode d)

end Document

end FleetConfig
