import Crosstab.Value.Convert
import Crosstab.Text.Search

/-!
# Layers

A layer is a domain that data is captured in. Each has a table of samples, a table that describes
its fields, and a column of times.

Models `Layer` and `resolve_layer`.
-/

namespace Crosstab

open Text

/-- A domain of captured data. -/
inductive Layer where
  | httpPage
  | httpUri
  | tcp
  | ethernet
  deriving Repr, DecidableEq, Inhabited

namespace Layer

/-- All layers, in the order they are loaded. -/
def all : List Layer := [.httpPage, .httpUri, .tcp, .ethernet]

/-- The code of the layer. -/
def code : Layer → String
  | .httpPage => "HTTP_PAGE"
  | .httpUri => "HTTP_URI"
  | .tcp => "TCP"
  | .ethernet => "ETHERNET"

/-- The table of samples. -/
def dataTable : Layer → String
  | .httpPage => "http_page_sample"
  | .httpUri => "http_uri_sample"
  | .tcp => "tcp_sample"
  | .ethernet => "ethernet_sample"

/-- The table that describes the fields. -/
def fieldsTable : Layer → String
  | .httpPage => "http_page_fields"
  | .httpUri => "http_uri_fields"
  | .tcp => "tcp_fields"
  | .ethernet => "ethernet_fields"

/-- The column of times. -/
def defaultTimeField (_ : Layer) : String := "ts_server_nsec"

/-- Other codes that clients send. -/
def aliases : List (String × Layer) :=
  [("L4_TCP", .tcp), ("HTTPPAGE", .httpPage), ("HTTPURI", .httpUri), ("ETH", .ethernet)]

/-- The layer of a code in its plain spelling. -/
def ofCode? (s : String) : Option Layer :=
  (aliases.lookup s).or (all.find? (·.code == s))

/-- The plain spelling of a code: in upper case, with underscores. -/
def plainSpelling (s : String) : String :=
  replaceChar '-' "_" (upper (trim s))

/-- The layer of a selector that is not blank; none for a blank one. -/
def ofSelector (selector : Value) : Outcome (Option Layer) := do
  let key := plainSpelling (← selector.textOr "")
  if key.isEmpty then return none
  match ofCode? key with
  | some layer => return some layer
  | none => reject .layerNotFound selector.display

/-- The layer that a request selects, the default one for a blank selector. -/
def resolve (selector : Value) (default_ : Value) : Outcome Layer := do
  if let some layer ← ofSelector selector then return layer
  if default_.truthy then
    if let some layer ← ofSelector default_ then return layer
  reject .layerNotFound "layer is required"

end Layer

end Crosstab
