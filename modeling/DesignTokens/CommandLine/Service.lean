import DesignTokens.Graph.Decode
import DesignTokens.Text.Blank
import DesignTokens.Url.Basic

/-!
Asking the design tool for the tokens of a file, and what its answers mean. An answer is read only
if its status says that all went well, and then has to say so again itself.
-/

namespace DesignTokens

structure Question where
  url : Url
  token : String
  deriving DecidableEq

structure Reply where
  code : Nat
  body : String
  deriving DecidableEq

inductive FetchError where
  | noReply (url : Url) (reason : String)
  | refused (code : Nat) (body : String)
  | unreadable
  | reported (status : Option Nat) (message : Option String)
  deriving DecidableEq

namespace Question

def isHeaderChar (c : Char) : Bool := c = '\t' || (0x20 ≤ c.val && c.val ≠ 0x7f)

def isWebScheme (scheme : List Char) : Bool :=
  scheme = "http".toList || scheme = "https".toList

def isWebHost (host : List Char) : Bool := host.all (!"\"`\x7b\x7d".toList.contains ·)

def unfit (url : Url) : String := "builder error for url (" ++ .ofList url.render ++ ")"

/-- Why a question cannot be put: there is no host, its token is no header, or its address is none
    of the web. Users are not sent in the address. -/
def objection? (q : Question) : Option String :=
  if q.url.host = [] then some (unfit q.url)
  else if !q.token.toList.all isHeaderChar then some "builder error"
  else if !isWebScheme q.url.scheme || !isWebHost q.url.host then some (unfit q.url.withoutUser)
  else none

end Question

namespace Reply

/-- An answer as it arrives: those of some statuses have no body. -/
def arriving (code : Nat) (body : String) : Reply :=
  ⟨code, if code = 204 ∨ code = 304 then "" else body⟩

def isSuccess (r : Reply) : Bool := 200 ≤ r.code && r.code < 300

def reasons : List (Nat × String) :=
  [(100, "Continue"), (101, "Switching Protocols"), (102, "Processing"), (103, "Early Hints"),
   (200, "OK"), (201, "Created"), (202, "Accepted"), (203, "Non Authoritative Information"),
   (204, "No Content"), (205, "Reset Content"), (206, "Partial Content"), (207, "Multi-Status"),
   (208, "Already Reported"), (226, "IM Used"), (300, "Multiple Choices"),
   (301, "Moved Permanently"), (302, "Found"), (303, "See Other"), (304, "Not Modified"),
   (305, "Use Proxy"), (307, "Temporary Redirect"), (308, "Permanent Redirect"),
   (400, "Bad Request"), (401, "Unauthorized"), (402, "Payment Required"), (403, "Forbidden"),
   (404, "Not Found"), (405, "Method Not Allowed"), (406, "Not Acceptable"),
   (407, "Proxy Authentication Required"), (408, "Request Timeout"), (409, "Conflict"),
   (410, "Gone"), (411, "Length Required"), (412, "Precondition Failed"),
   (413, "Payload Too Large"), (414, "URI Too Long"), (415, "Unsupported Media Type"),
   (416, "Range Not Satisfiable"), (417, "Expectation Failed"), (418, "I'm a teapot"),
   (421, "Misdirected Request"), (422, "Unprocessable Entity"), (423, "Locked"),
   (424, "Failed Dependency"), (425, "Too Early"), (426, "Upgrade Required"),
   (428, "Precondition Required"), (429, "Too Many Requests"),
   (431, "Request Header Fields Too Large"), (451, "Unavailable For Legal Reasons"),
   (500, "Internal Server Error"), (501, "Not Implemented"), (502, "Bad Gateway"),
   (503, "Service Unavailable"), (504, "Gateway Timeout"), (505, "HTTP Version Not Supported"),
   (506, "Variant Also Negotiates"), (507, "Insufficient Storage"), (508, "Loop Detected"),
   (510, "Not Extended"), (511, "Network Authentication Required")]

def reason (code : Nat) : String := (reasons.lookup code).getD "<unknown status code>"

def explanation (r : Reply) : String := Text.stripped r.body

def graph (r : Reply) : Except FetchError TokenGraph :=
  if r.isSuccess then
    match Response.parse? r.body with
    | none => .error .unreadable
    | some answer =>
      if answer.isSuccess then .ok answer.graph
      else .error (.reported answer.status answer.message)
  else .error (.refused r.code r.explanation)

end Reply

def FetchError.message : FetchError → String
  | noReply url reason => "request to " ++ .ofList url.render ++ " failed: " ++ reason
  | refused code body =>
    "variables request failed with status " ++ toString code ++ " " ++ Reply.reason code ++
      (if body = "" then "" else ": " ++ body)
  | unreadable => "failed to parse variables response"
  | reported status message =>
    "variables API reported an error (status " ++ (status.map toString).getD "none" ++ "): " ++
      message.getD "no message"

end DesignTokens
