import WdmNet.Text.Quoted
import WdmNet.Text.Blank
/-!
Listening addresses.

A TCP listening address is `host:port`, with an IPv6 host in brackets. The port is the part
after the last colon: a decimal number from 0 to 65535, empty for any free port, or the name of
a well-known service. An empty host listens on every interface, shown as `[::]`; `localhost`
stands for `127.0.0.1`. A host that is an IPv4 address listens only when the address is
`0.0.0.0` or on the loopback network `127.0.0.0/8`, and any other host name does not resolve.

Refusals are written as the listener reports them, for example
`listen tcp: address bad:addr:x: too many colons in address`.
-/

namespace WdmNet.Cli

/-- The host and port of an address, or why they cannot be told apart. -/
def splitHostPort (a : String) : Except String (String × String) :=
  let cs := a.toList
  let bad (why : String) : Except String (String × String) := .error ("address " ++ a ++ ": " ++ why)
  match cs.reverse.findIdx? (· == ':') with
  | none => bad "missing port in address"
  | some fromEnd =>
    let i := cs.length - 1 - fromEnd
    let port := String.ofList (cs.drop (i + 1))
    let hostPart : Except String (String × Nat × Nat) :=
      if cs.head? == some '[' then
        match cs.findIdx? (· == ']') with
        | none => .error "missing ']' in address"
        | some e =>
          if e + 1 == cs.length then .error "missing port in address"
          else if e + 1 == i then .ok (String.ofList ((cs.take e).drop 1), 1, e + 1)
          else if cs[e + 1]? == some ':' then .error "too many colons in address"
          else .error "missing port in address"
      else
        let host := cs.take i
        if host.contains ':' then .error "too many colons in address" else .ok (String.ofList host, 0, 0)
    match hostPart with
    | .error why => bad why
    | .ok (host, j, k) =>
      if (cs.drop j).contains '[' then bad "unexpected '[' in address"
      else if (cs.drop k).contains ']' then bad "unexpected ']' in address"
      else .ok (host, port)

/-- The ports of well-known TCP services. -/
def servicePorts : List (String × Nat) :=
  [("ftp", 21), ("ftps", 990), ("gopher", 70), ("http", 80), ("https", 443), ("imap2", 143),
   ("imap3", 220), ("imaps", 993), ("pop3", 110), ("pop3s", 995), ("smtp", 25),
   ("submissions", 465), ("ssh", 22), ("telnet", 23)]

/-- The largest 32-bit word. -/
def wordMax : Nat := Nat.pow 2 32 - 1

/-- The value from which a port number stops being read. -/
def portCutoff : Nat := Nat.pow 2 30

/-- Reads the digits of a port number into a 32-bit word `n` whose multiplication by ten
wraps. Each character is first checked to be a digit (none when it is not: the text names a
service). Then, once the word has reached `portCutoff`, or when adding the digit overflows, it
becomes `wordMax` and the rest of the text is not looked at. -/
def readPortDigits : List Char → Nat → Option Nat
  | [], n => some n
  | c :: rest, n =>
    if !c.isDigit then none
    else if n ≥ portCutoff then some wordMax
    else
      let sum := n * 10 % Nat.pow 2 32 + (c.toNat - '0'.toNat)
      if sum > wordMax then some wordMax else readPortDigits rest sum

/-- The number of a port: digits after an optional sign, read by `readPortDigits` and clamped
to the range from `-portCutoff` to `portCutoff - 1`; none when the text names a service. -/
def portNumber? (s : String) : Option Int :=
  let (neg, digits) := match s.toList with
    | '+' :: r => (false, r)
    | '-' :: r => (true, r)
    | cs => (false, cs)
  (readPortDigits digits 0).map fun n =>
    let n := if !neg && n ≥ portCutoff then portCutoff - 1 else if neg && n > portCutoff then portCutoff else n
    if neg then -(n : Int) else n

/-- The port a port text stands for. -/
def lookupPort (s : String) : Except String Nat :=
  let p : Except String Int :=
    if s.isEmpty then .ok 0
    else
      match portNumber? s with
      | some n => .ok n
      | none =>
        match servicePorts.find? (·.1 == Text.lower s) with
        | some (_, n) => .ok n
        | none => .error ("lookup tcp/" ++ s ++ ": unknown port")
  match p with
  | .error e => .error e
  | .ok n => if n < 0 || n > 65535 then .error ("address " ++ s ++ ": invalid port") else .ok n.toNat

/-- The four numbers of a dotted IPv4 address. -/
def ipv4? (s : String) : Option (List Nat) :=
  let parts := s.splitOn "."
  if parts.length == 4 && parts.all (fun p => !p.isEmpty && p.length ≤ 3 && p.all Char.isDigit &&
      (p.length == 1 || p.front != '0') && p.toNat! ≤ 255) then some (parts.map String.toNat!)
  else none

/-- The address a listener on `host:port` is bound to, or why it cannot listen. -/
def listenAddress (a : String) : Except String String :=
  match splitHostPort a with
  | .error e => .error ("listen tcp: " ++ e)
  | .ok (host, portText) =>
    match lookupPort portText with
    | .error e => .error ("listen tcp: " ++ e)
    | .ok port =>
      let shown (h : String) := h ++ ":" ++ toString port
      if host.isEmpty then .ok (shown "[::]")
      else if host == "localhost" then .ok (shown "127.0.0.1")
      else
        match ipv4? host with
        | some [a, b, c, d] =>
          if a == 127 || (a == 0 && b == 0 && c == 0 && d == 0) then .ok (shown host)
          else .error ("listen tcp " ++ shown host ++ ": bind: cannot assign requested address")
        | _ =>
          if host == "::" || host == "::1" then .ok (shown ("[" ++ host ++ "]"))
          else .error ("listen tcp: lookup " ++ host ++ ": no such host")

end WdmNet.Cli
