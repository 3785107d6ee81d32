import ApiBindings.Text.Basic

/-!
# Status codes

What the status code of a reply means, and the text for a reply that is no success.
-/

namespace ApiBindings.Web

/-- The names of the status codes. -/
def reasons : List (Int × String) :=
  [(100, "Continue"), (101, "Switching Protocols"), (102, "Processing"), (103, "Early Hints"),
    (200, "OK"), (201, "Created"), (202, "Accepted"), (203, "Non-Authoritative Information"),
    (204, "No Content"), (205, "Reset Content"), (206, "Partial Content"), (207, "Multi-Status"),
    (208, "Already Reported"), (226, "IM Used"), (300, "Multiple Choices"),
    (301, "Moved Permanently"), (302, "Found"), (303, "See Other"), (304, "Not Modified"),
    (305, "Use Proxy"), (307, "Temporary Redirect"), (308, "Permanent Redirect"),
    (400, "Bad Request"), (401, "Unauthorized"), (402, "Payment Required"), (403, "Forbidden"),
    (404, "Not Found"), (405, "Method Not Allowed"), (406, "Not Acceptable"),
    (407, "Proxy Authentication Required"), (408, "Request Timeout"), (409, "Conflict"),
    (410, "Gone"), (411, "Length Required"), (412, "Precondition Failed"),
    (413, "Request Entity Too Large"), (414, "Request-URI Too Long"),
    (415, "Unsupported Media Type"), (416, "Requested Range Not Satisfiable"),
    (417, "Expectation Failed"), (418, "I'm a teapot"), (421, "Misdirected Request"),
    (422, "Unprocessable Entity"), (423, "Locked"), (424, "Failed Dependency"),
    (425, "Too Early"), (426, "Upgrade Required"), (428, "Precondition Required"),
    (429, "Too Many Requests"), (431, "Request Header Fields Too Large"),
    (451, "Unavailable For Legal Reasons"), (500, "Internal Server Error"),
    (501, "Not Implemented"), (502, "Bad Gateway"), (503, "Service Unavailable"),
    (504, "Gateway Timeout"), (505, "HTTP Version Not Supported"),
    (506, "Variant Also Negotiates"), (507, "Insufficient Storage"), (508, "Loop Detected"),
    (510, "Not Extended"), (511, "Network Authentication Required")]

def reason (status : Int) : String := (reasons.lookup status).getD ""

def isSuccess (status : Int) : Bool := 200 ≤ status && status ≤ 299

/-- whether a status code sends the reader to another address -/
def isRedirect (status : Int) : Bool := [301, 302, 303, 307, 308].contains status

/-- The class of a status code that is no success. -/
def refusalClass (status : Int) : String :=
  match status / 100 with
  | 1 => "Informational response"
  | 3 => "Redirect response"
  | 4 => "Client error"
  | 5 => "Server error"
  | _ => "Invalid status code"

def statusGuide : String :=
  "https:" ++ "//developer.mozilla.org/en-US/docs/Web/HTTP/Status/"

/-- A reply that is no success.  The other address is there only for a status code that sends the
reader on. -/
structure Refusal where
  status : Int
  url : String
  location : Option String
deriving DecidableEq, Repr

/-- The text about a reply that is no success. -/
def Refusal.message (r : Refusal) : String :=
  refusalClass r.status ++ " '" ++ toString r.status ++ " " ++ reason r.status ++ "' for url '" ++
    r.url ++ "'\n" ++
    (match r.location with
    | some location => "Redirect location: '" ++ location ++ "'\n"
    | none => "") ++
    "For more information check: " ++ statusGuide ++ toString r.status

end ApiBindings.Web
