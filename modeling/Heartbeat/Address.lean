import Heartbeat.Address.Host
import Heartbeat.Failure
import Heartbeat.Text.Blank

/-!
# Addresses

A request goes to an address: a scheme, a host, perhaps a user and a port, a path, and
perhaps a query and a fragment.  Before it is used an address is put into its canonical
form.  Small letters are used where capitals make no difference, steps up and steps on
the spot are taken out of the path, and what may not stand for itself is escaped.

An address that does not begin like the two schemes that are spoken here is not looked
at any further; there is no way to speak to it.
-/

namespace Heartbeat

set_option autoImplicit false

/-- An address taken apart.  A part that is not there is empty, and the port that is not
there is zero. -/
structure Address where
  scheme : Text
  user : Text
  host : Text
  port : Nat
  path : Text
  query : Text
  fragment : Text

namespace Address

/-! ## Points -/

/-- The slash. -/
def slash : CodePoint := 0x2F

/-- What stands before an authority. -/
def slashes : Text := [slash, slash]

/-- The mark before a query. -/
def queryMark : CodePoint := 0x3F

/-- The mark before a fragment. -/
def fragmentMark : CodePoint := 0x23

/-- The mark behind a user. -/
def userMark : CodePoint := 0x40

/-- What may stand for itself in a user. -/
def isUserPoint (point : CodePoint) : Bool :=
  point.isUnreserved || ("!$&'()*+,;=:" : Text).contains point

/-- What may stand for itself in a path. -/
def isPathPoint (point : CodePoint) : Bool := isUserPoint point || ("@/" : Text).contains point

/-- What may stand for itself in a query and in a fragment. -/
def isQueryPoint (point : CodePoint) : Bool := isPathPoint point || decide (point = queryMark)

/-- What stands for itself in a finished address, percent signs apart. -/
def isReservedPoint (point : CodePoint) : Bool :=
  point.isUnreserved || ("!#$&'()*+,/:;=?@[]~" : Text).contains point

/-! ## Schemes -/

/-- Whether a point may stand in a scheme. -/
def isSchemePoint (point : CodePoint) : Bool :=
  point.isLetter || point.isDigit || ("+-." : Text).contains point

/-- A text before and behind the colon that ends a scheme. -/
def cutScheme? (text : Text) : Option (Text × Text) :=
  match Text.cut? Host.colon text with
  | some (first :: name, rest) =>
    if first.isLetter && name.all isSchemePoint then some (first :: name, rest) else none
  | _ => none

/-- Whether a text begins with a scheme or with a slash.  A scheme with a point in it
looks like a host. -/
def isAnchored (text : Text) : Bool :=
  text.head? = some slash || match cutScheme? text with
    | some (name, _) => !name.contains Host.point
    | none => false

/-- The schemes that are spoken, the first of them without encryption. -/
def spoken : List Text := ["http", "https"]

/-- Whether the parts of an address with a given scheme are put into canonical form.
Where there is none, a spoken one is assumed. -/
def isNormalized (scheme : Text) : Bool := scheme.isEmpty || spoken.contains scheme

/-! ## Authorities -/

/-- A text before and behind the last mark behind a user; there may be no user. -/
def cutUser (authority : Text) : Text × Text :=
  let host := (authority.reverse.takeWhile fun point => decide (point ≠ userMark)).reverse
  (authority.take (authority.length - host.length - 1), host)

/-- The highest port. -/
def highestPort : Nat := 65535

/-- The port that a text writes behind a colon.  Nothing is no port, and so is a colon
alone; a line feed at the end is not looked at. -/
def port? (text : Text) : Option Nat :=
  let text := if text.getLast? = some 0x0A then text.dropLast else text
  match text with
  | [] => some 0
  | colon :: digits =>
    let number := digits.dropWhile fun point => decide (point = 0x30)
    if colon = Host.colon ∧ digits.all CodePoint.isDigit = true ∧ number.length ≤ 5
      ∧ Text.digitsValue number ≤ highestPort then some (Text.digitsValue number)
    else none

/-- The text of a host and the port behind it.  Where a host stands in brackets, small
letters are used for it already. -/
def cutPort? (text : Text) : Option (Text × Nat) :=
  if text.head? = some Host.opening then do
    let (inside, rest) ← Text.cut? Host.closing (text.drop 1)
    let host ← Host.numeric? inside
    let port ← port? rest
    return (Host.opening :: host ++ [Host.closing], port)
  else do
    let host := text.takeWhile fun point => decide (point ≠ Host.colon)
    let port ← if host = text then some 0 else port? (text.drop host.length)
    if Host.isName host then return (host, port) else none

/-- A host in its canonical form. -/
def host? (scheme host : Text) : Option Text :=
  if host.head? = some Host.opening || !isNormalized scheme then some host else Host.name? host

/-! ## Paths -/

/-- A step on the spot. -/
def here : Text := "."

/-- A step up. -/
def above : Text := ".."

/-- The segments of a path without the steps on the spot and the steps up. -/
def walk (segments : List Text) : List Text :=
  segments.foldl
    (fun taken segment =>
      if segment = here then taken
      else if segment = above then taken.dropLast
      else taken ++ [segment])
    []

/-- A path without steps on the spot and steps up.  It still begins with a slash if it
did, and it ends with one if its last step was one of these. -/
def straighten (path : Text) : Text :=
  let taken := walk (Text.split slash path)
  let begun := if path.head? = some slash ∧ taken.head? ≠ some [] then [] :: taken else taken
  let last := (Text.split slash path).getLast?
  let isLong := decide (1 < (Text.split slash path).length)
  let stops := isLong && (last = some here || last = some above)
  Text.join [slash] (if stops then begun ++ [[]] else begun)

/-- A path that begins with a slash. -/
def rooted (path : Text) : Text := if path.head? = some slash then path else slash :: path

/-! ## Reading -/

/-- A text before the first point that satisfies a condition, and from it on. -/
def breakAt (condition : CodePoint → Bool) (text : Text) : Text × Text :=
  let before := text.takeWhile fun point => !condition point
  (before, text.drop before.length)

/-- What stands behind a mark, and nothing if it is not there. -/
def behind (mark : CodePoint) (text : Text) : Text :=
  if text.head? = some mark then text.drop 1 else []

/-- Takes an address apart and puts its parts into canonical form. -/
def read? (text : Text) : Option Address := do
  let anchored := if isAnchored text then text else slashes ++ text
  let (scheme, rest) := (cutScheme? anchored).getD ([], anchored)
  let scheme := scheme.toLowerAscii
  let (authority, rest) :=
    match Text.after? slashes rest with
    | some rest => breakAt (fun point => ("\\/?#" : Text).contains point) rest
    | none => ([], rest)
  let (path, rest) := breakAt (fun point => ("?#" : Text).contains point) rest
  let (query, rest) := breakAt (fun point => decide (point = fragmentMark)) rest
  let (user, place) := cutUser authority
  let (host, port) ← cutPort? place
  let host ← host? scheme host
  let canonical := fun (keeps : CodePoint → Bool) (part : Text) =>
    if isNormalized scheme then part.escapeOnce keeps else part
  return {
    scheme
    user := canonical isUserPoint user
    host
    port
    path := canonical isPathPoint (if isNormalized scheme then straighten path else path)
    query := canonical isQueryPoint (behind queryMark query)
    fragment := canonical isQueryPoint (behind fragmentMark rest) }

/-! ## Writing -/

/-- A part behind the mark that it has, if there is one. -/
def marked (mark : CodePoint) (part : Text) : Text := if part.isEmpty then [] else mark :: part

/-- The text of an address. -/
def toText (address : Address) : Text :=
  address.scheme ++ ("://" : Text)
    ++ (if address.user.isEmpty then [] else address.user ++ [userMark])
    ++ address.host
    ++ (if address.port = 0 then [] else Host.colon :: Text.ofNat address.port)
    ++ rooted address.path
    ++ marked queryMark address.query
    ++ marked fragmentMark address.fragment

/-- The text of an address with those escapes that it needs and no others.  If an escape
means nothing, all percent signs are escaped. -/
def tidy (text : Text) : Text :=
  match text.withoutNeedlessEscapes? with
  | some text =>
    text.escape fun point => isReservedPoint point || decide (point = CodePoint.percent)
  | none => text.escape isReservedPoint

/-! ## Checks -/

/-- The blank, and the controls before it. -/
def isLow (point : CodePoint) : Bool := decide (point.val ≤ 0x20)

/-- A point that no host may have in it. -/
def isForbidden (point : CodePoint) : Bool := isLow point || decide (point.val = 0x7F)

/-- Checks that an address says how and where the collector is spoken to. -/
def check (text : Text) (address : Address) : Except AddressFault Unit := do
  if let some point := address.host.find? isForbidden then throw (.badPoint address.host point)
  if address.scheme.isEmpty then throw (.noScheme text)
  if address.host.isEmpty then throw (.noHost text)
  if ("*." : Text).any fun point => decide (address.host.head? = some point) then throw .badLabel

/-- Checks the brackets of an address that is not looked at any further. -/
def checkBrackets (text : Text) : Except AddressFault Unit := do
  let begun := (text.dropWhile isLow).filter fun point =>
    !("\t\n\r" : Text).contains point
  let rest := ((cutScheme? begun).map Prod.snd).getD begun
  let authority := ((Text.after? slashes rest).map fun rest =>
    (breakAt (fun point => ("/?#" : Text).contains point) rest).1).getD []
  match Text.cut? Host.opening authority with
  | none => if authority.contains Host.closing then throw .halfBracketed
  | some (_, after) =>
    if !authority.contains Host.closing then throw .halfBracketed
    let inside := after.takeWhile fun point => decide (point ≠ Host.closing)
    if Host.isFour inside then throw .bracketedFour
    if (Host.numeric? inside).isNone then throw (.notNumeric inside)

/-- The canonical form of an address, or why no request can be sent to it. -/
def canonical (text : Text) : Except AddressFault Text := do
  let text : Text := text.dropWhile CodePoint.isBlank
  if text.isEmpty then throw (.noScheme text)
  if text.contains Host.colon && (Text.after? "http" text.toLowerAscii).isNone then
    checkBrackets text
    throw (.unreachable text)
  match read? text with
  | none => throw (.unreadable text)
  | some address =>
    check text address
    let form := tidy address.toText
    if spoken.contains address.scheme then return form else throw (.unreachable form)

end Address

end Heartbeat
