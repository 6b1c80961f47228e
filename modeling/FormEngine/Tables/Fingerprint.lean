import FormEngine.Json.Writer
import FormEngine.Schema.Form

set_option autoImplicit false

namespace FormEngine

-- Where a table comes from, with its texts as they come in with a request.
structure CodedApi where
  url : Codes
  method : Method
  headers : List (Codes × Codes)
  body : Option Codes
deriving DecidableEq

namespace CodedApi

def sortedHeaders (headers : List (Codes × Codes)) : List (Codes × Codes) :=
  headers.mergeSort fun a b => a.1.upTo b.1

def textOrNull : Option Codes → List Char
  | some text => Json.quoteAscii text
  | none => "null".toList

def headersText (headers : List (Codes × Codes)) : List Char :=
  Json.lineObject ((sortedHeaders headers).map fun h => (h.1, Json.quoteAscii h.2))

def fingerprint (a : CodedApi) : String :=
  String.ofList (Json.lineObject
    [(codesOf "body", textOrNull a.body), (codesOf "headers", headersText a.headers),
     (codesOf "method", textOrNull (some (codesOf a.method.name))), (codesOf "url", textOrNull (some a.url))])

end CodedApi

namespace TableApi

def coded (a : TableApi) : CodedApi :=
  ⟨codesOf a.url, a.method, a.headers.map fun h => (codesOf h.1, codesOf h.2), a.body.map codesOf⟩

def fingerprint (a : TableApi) : String := a.coded.fingerprint

end TableApi

end FormEngine
