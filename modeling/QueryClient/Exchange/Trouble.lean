import QueryClient.Exchange.Destination
import QueryClient.Exchange.Reply

/-!
# Trouble on the wire

In the place of a reply there may come **trouble**. Most kinds are failures
of the network or the server and are part of what a client has to expect;
some, such as a wrong value inside the transport, are not expected and go up to
whoever called.
-/

namespace QueryClient

/-- The **kinds** of trouble. -/
inductive TroubleKind where
  /-- No connection is made. -/
  | newConnection
  /-- Making the connection takes too long. -/
  | connectTimeout
  /-- The connection is not secure. -/
  | insecure
  /-- The server keeps giving unusable responses. -/
  | response
  /-- The proxy does not connect. -/
  | proxy
  /-- Reading takes too long. -/
  | readTimeout
  /-- The pool of connections is closed. -/
  | closedPool
  /-- The connection is not secure, seen outside the pool. -/
  | bareInsecure
  /-- The rules of the protocol are broken. -/
  | protocol
  /-- A header is none. -/
  | invalidHeader
  /-- The system reports an error. -/
  | system
  /-- The other side has closed the pipe. -/
  | brokenPipe
  /-- The transport itself reports that something cannot be decoded. A reply whose
  body cannot be decoded once it is there is no trouble of this kind. -/
  | decode
  /-- Some other failure of the protocol layer. -/
  | http
  /-- A wrong value inside the transport. -/
  | value
  /-- Some failure inside the transport. -/
  | runtime
deriving DecidableEq, Repr

/-- **Trouble** with its message. -/
structure Trouble where
  /-- The kind. -/
  kind : TroubleKind
  /-- The message that comes with it. -/
  text : Text
deriving DecidableEq, Repr

/-- What comes back for one request: a reply or trouble. -/
inductive Event where
  /-- A reply. -/
  | reply (r : Reply)
  /-- Trouble. -/
  | trouble (t : Trouble)
deriving DecidableEq, Repr

namespace TroubleKind

/-- The cause that a message names after the attempts are given up, with its
arguments, if trouble of this kind is reported in that way. -/
def cause? (d : Destination) (text : Text) : TroubleKind → Option Text
  | .newConnection =>
    some ("NewConnectionError(".toList
      ++ Text.quoted (d.connection ++ ": ".toList ++ text) ++ [')'])
  | .connectTimeout =>
    some ("ConnectTimeoutError(".toList ++ Text.quoted text ++ [')'])
  | .insecure => some ("SSLError(".toList ++ Text.quoted text ++ [')'])
  | .response => some ("ResponseError(".toList ++ Text.quoted text ++ [')'])
  | .proxy =>
    some ("ProxyError(".toList ++ Text.quoted text ++ ", OSError(".toList
      ++ Text.quoted text ++ "))".toList)
  | _ => none

/-- Whether trouble of this kind is among what a client expects. -/
def isExpected : TroubleKind → Bool
  | .decode | .http | .value | .runtime => false
  | _ => true

end TroubleKind

/-- The message of trouble on the way to a destination. -/
def Trouble.message (t : Trouble) (d : Destination) : Text :=
  match t.kind.cause? d t.text with
  | some cause =>
    d.pool ++ ": Max retries exceeded with url: ".toList ++ d.target
      ++ " (Caused by ".toList ++ cause ++ [')']
  | none =>
    match t.kind with
    | .readTimeout | .closedPool => d.pool ++ ": ".toList ++ t.text
    | .brokenPipe => "[Errno 32] ".toList ++ t.text
    | _ => t.text

end QueryClient
