import AnomalyWindows.Json.Printer
import AnomalyWindows.Json.Reader
import AnomalyWindows.Text.Query

/-!
Exchanges over the network: what is asked, what comes back, and the record of both. The far side
answers each address by a list of replies, one after another, the last of them for ever.
-/

namespace AnomalyWindows

structure Request where
  method : String
  url : String
  query : List (String × String) := []
  body : Option Data := none
  headers : List (String × String) := []

namespace Request

def ofAddress (method address : String) (body : Option Data) : Request :=
  let cs := address.toList
  { method, url := String.ofList (Text.beforeQuery cs), query := Text.queryOf cs, body }

end Request

structure Response where
  status : Int
  body : String
  deriving DecidableEq, Repr

namespace Response

def isSuccess (r : Response) : Bool :=
  200 ≤ r.status && r.status < 300

def data (r : Response) : Except Fault Data :=
  Json.ofText r.body

def successful (r : Response) : Except Fault Response :=
  if r.isSuccess then .ok r else .error (.status r.status)

end Response

/-- What a request meets with: an answer, or a transport that breaks. -/
inductive Reply
  | answered (response : Response)
  | broken (fault : TransportFault)
  deriving DecidableEq, Repr

/-- What the near side of a network talks to. -/
inductive Peer
  | database
  | detector (name : String)
  deriving DecidableEq, Repr

/-- What happens on the near side of a network. -/
inductive Traffic
  | opened (peer : Peer) (timeout : Float)
  | sent (peer : Peer) (request : Request)
  | closed (peer : Peer)

structure Network where
  replies : List (String × List Reply)
  record : List Traffic := []

namespace Network

def note (t : Traffic) (n : Network) : Network :=
  { n with record := t :: n.record }

def traffic (n : Network) : List Traffic :=
  n.record.reverse

def notFound : Reply := .answered ⟨404, ""⟩

def nextReply : List Reply → Reply × List Reply
  | [] => (notFound, [])
  | [last] => (last, [last])
  | reply :: later => (reply, later)

def takeReply (address : String) : List (String × List Reply) → Reply × List (String × List Reply)
  | [] => (notFound, [])
  | (a, rs) :: rest =>
    if a = address then
      let (reply, later) := nextReply rs
      (reply, (a, later) :: rest)
    else
      let (reply, rest) := takeReply address rest
      (reply, (a, rs) :: rest)

def send (peer : Peer) (request : Request) (n : Network) : Except Fault Response × Network :=
  let (reply, replies) := takeReply (request.method ++ " " ++ request.url) n.replies
  let n := { n with replies, record := .sent peer request :: n.record }
  match reply with
  | .answered response => (.ok response, n)
  | .broken fault => (.error (.transport fault), n)

end Network

/-- The near side of exchanges, which is opened when it is first used. -/
structure Client where
  peer : Peer
  timeout : Float
  headers : List (String × String)
  isOpen : Bool := false

namespace Client

/-- The client opened, unless it is open already. -/
def ready (c : Client) (n : Network) : Client × Network :=
  ({ c with isOpen := true }, if c.isOpen then n else n.note (.opened c.peer c.timeout))

def send (request : Request) (c : Client) (n : Network) : Except Fault Response × Network :=
  n.send c.peer { request with headers := c.headers }

def close (c : Client) (n : Network) : Client × Network :=
  ({ c with isOpen := false }, if c.isOpen then n.note (.closed c.peer) else n)

end Client

end AnomalyWindows
