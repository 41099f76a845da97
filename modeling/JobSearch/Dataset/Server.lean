import JobSearch.Dataset.LoadFailure
import JobSearch.Dataset.Url
import JobSearch.Text.Blank

/-!
# Fetching a dataset from a server

The dataset lies under a path of a server. A response with a status of success carries it;
everything else is a failed load. Nothing is asked for if the address cannot be read, and an
address that leads nowhere by itself is found out when a response comes.

## Main definitions

* `datasetUrl` — where the dataset lies.
* `reasonPhrase` — the words for a status.
* `Response`, `Response.outcome` — what a request leads to.
* `fetchFrom` — what is asked for, and the contents of the dataset.
-/

namespace JobSearch

/-- The name of the dataset file. -/
def datasetFileName : String := "data.db"

/-- The path under which a dataset lies unless another one is set. -/
def defaultPath : String := "/db"

/-- Where the dataset lies: under the path, whatever slashes surround it, of the server. -/
def datasetUrl (base path : String) : String :=
  let inner := Text.dropBoth (· == '/') path
  Text.dropRight (· == '/') base ++ (if inner.isEmpty then "" else "/" ++ inner) ++ "/" ++
    datasetFileName

/-- The words for the statuses that have some. -/
def reasonPhrases : List (Int × String) := [
  (100, "Continue"), (101, "Switching Protocols"), (102, "Processing"), (103, "Early Hints"),
  (200, "OK"), (201, "Created"), (202, "Accepted"), (203, "Non-Authoritative Information"),
  (204, "No Content"), (205, "Reset Content"), (206, "Partial Content"), (207, "Multi-Status"),
  (208, "Already Reported"), (226, "IM Used"), (300, "Multiple Choices"),
  (301, "Moved Permanently"), (302, "Found"), (303, "See Other"), (304, "Not Modified"),
  (305, "Use Proxy"), (307, "Temporary Redirect"), (308, "Permanent Redirect"),
  (400, "Bad Request"), (401, "Unauthorized"), (402, "Payment Required"), (403, "Forbidden"),
  (404, "Not Found"), (405, "Method Not Allowed"), (406, "Not Acceptable"),
  (407, "Proxy Authentication Required"), (408, "Request Timeout"), (409, "Conflict"),
  (410, "Gone"), (411, "Length Required"), (412, "Precondition Failed"),
  (413, "Request Entity Too Large"), (414, "Request-URI Too Long"),
  (415, "Unsupported Media Type"), (416, "Requested Range Not Satisfiable"),
  (417, "Expectation Failed"), (418, "I'm a teapot"), (421, "Misdirected Request"),
  (422, "Unprocessable Entity"), (423, "Locked"), (424, "Failed Dependency"),
  (425, "Too Early"), (426, "Upgrade Required"), (428, "Precondition Required"),
  (429, "Too Many Requests"), (431, "Request Header Fields Too Large"),
  (451, "Unavailable For Legal Reasons"), (500, "Internal Server Error"),
  (501, "Not Implemented"), (502, "Bad Gateway"), (503, "Service Unavailable"),
  (504, "Gateway Timeout"), (505, "HTTP Version Not Supported"),
  (506, "Variant Also Negotiates"), (507, "Insufficient Storage"), (508, "Loop Detected"),
  (510, "Not Extended"), (511, "Network Authentication Required")]

/-- The words for a status, none if it is unknown. -/
def reasonPhrase (status : Int) : String := (reasonPhrases.lookup status).getD ""

/-- What a request leads to. -/
inductive Response where
  /-- The server answers. -/
  | answered (status : Int) (body : String)
  /-- The time that a request may take is over. -/
  | timedOut
  /-- The request fails in another way. -/
  | failed (reason : String)

/-- The contents that were asked for at a place, or why there are none. -/
def Response.outcome (url : String) : Response → Except LoadFailure String
  | answered status body =>
    if 200 ≤ status ∧ status < 300 then .ok body
    else .error (.rejected status (reasonPhrase status))
  | timedOut => .error (.timedOut url)
  | failed reason => .error (.unreachable url reason)

/-- Why there are no contents. -/
inductive FetchFault where
  | failed (f : LoadFailure)
  /-- The address of the dataset cannot be read. -/
  | badUrl (f : UrlFault)
  /-- The address that was asked for leads nowhere by itself. -/
  | nowhere (requested : String)
  deriving DecidableEq

/-- A fetch without contents in words. -/
def FetchFault.message : FetchFault → String
  | failed f => f.message
  | badUrl f => f.message
  | nowhere requested => "unknown url type: " ++ Text.quoted requested

/-- The failed load that a fetch without contents is. -/
def FetchFault.loadFailure : FetchFault → LoadFailure
  | failed f => f
  | f => .broken f.message

/-- What is asked for, and the contents of the dataset at an address, given what a request leads
to. -/
def fetchFrom (url : String) (response : Response) :
    List String × Except FetchFault String :=
  match Url.read url with
  | .error f => ([], .error (.badUrl f))
  | .ok u =>
    ([u.requested],
      match response with
      | .answered .. =>
        if u.isAbsolute then (response.outcome url).mapError .failed
        else .error (.nowhere u.requested)
      | _ => (response.outcome url).mapError .failed)

end JobSearch
