import TenantReports.Net.Url

/-!
# Answers of web servers

What becomes of a request: an answer with a status and a body, or a failure of the transport. A
status is shown with the phrase that belongs to it.
-/

namespace TenantReports.Net

/-- Why a request got no answer. -/
inductive TransportError
  /-- None came in time. -/
  | timeout
  | failed (reason : String)
  deriving DecidableEq, Repr, Inhabited

/-- The answer to a request; its body may fail to come. -/
structure Answer where
  status : Nat
  body : Except TransportError (List UInt8)

/-- What becomes of a request. -/
abbrev Outcome :=
  Except TransportError Answer

/-- The phrases of statuses. -/
def statusPhrases : List (Nat × String) := [
  (100, "Continue"), (101, "Switching Protocols"), (102, "Processing"), (200, "OK"),
  (201, "Created"), (202, "Accepted"), (203, "Non Authoritative Information"),
  (204, "No Content"), (205, "Reset Content"), (206, "Partial Content"), (207, "Multi-Status"),
  (208, "Already Reported"), (226, "IM Used"), (300, "Multiple Choices"),
  (301, "Moved Permanently"), (302, "Found"), (303, "See Other"), (304, "Not Modified"),
  (305, "Use Proxy"), (307, "Temporary Redirect"), (308, "Permanent Redirect"),
  (400, "Bad Request"), (401, "Unauthorized"), (402, "Payment Required"), (403, "Forbidden"),
  (404, "Not Found"), (405, "Method Not Allowed"), (406, "Not Acceptable"),
  (407, "Proxy Authentication Required"), (408, "Request Timeout"), (409, "Conflict"),
  (410, "Gone"), (411, "Length Required"), (412, "Precondition Failed"),
  (413, "Payload Too Large"), (414, "URI Too Long"), (415, "Unsupported Media Type"),
  (416, "Range Not Satisfiable"), (417, "Expectation Failed"), (418, "I'm a teapot"),
  (421, "Misdirected Request"), (422, "Unprocessable Entity"), (423, "Locked"),
  (424, "Failed Dependency"), (425, "Too Early"), (426, "Upgrade Required"),
  (428, "Precondition Required"), (429, "Too Many Requests"),
  (431, "Request Header Fields Too Large"), (451, "Unavailable For Legal Reasons"),
  (500, "Internal Server Error"), (501, "Not Implemented"), (502, "Bad Gateway"),
  (503, "Service Unavailable"), (504, "Gateway Timeout"), (505, "HTTP Version Not Supported"),
  (506, "Variant Also Negotiates"), (507, "Insufficient Storage"), (508, "Loop Detected"),
  (510, "Not Extended"), (511, "Network Authentication Required")]

/-- A status and its phrase. -/
def statusText (status : Nat) : String :=
  Number.decimal status ++ " " ++ (statusPhrases.lookup status).getD "<unknown status code>"

/-- Whether a status tells that a request was granted. -/
def isSuccess (status : Nat) : Bool :=
  200 ≤ status && status < 300

/-- The text of a body; a mark of the octets' order at its start is left out. -/
def bodyText (body : List UInt8) : String :=
  let content := if [0xEF, 0xBB, 0xBF].isPrefixOf body then body.drop 3 else body
  String.ofList (Text.Utf8.decodeLossy content)

/-- Whether a text may be sent as the value of a header. -/
def isHeaderValue (s : String) : Bool :=
  s.toList.all fun c => c == '\t' || (0x20 ≤ c.toNat && c.toNat != 0x7F)

end TenantReports.Net
