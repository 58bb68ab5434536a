import Folio.Markdown.Inline.Attention
import Folio.Text.Lowercase

/-!
# Bare links

Addresses that are links without further markup: between angle brackets, and where a text holds a
web address or an email address.
-/

namespace Folio.Markdown

open Folio.Text

/-- Whether the character is an ASCII letter. -/
def isLetter (c : Char) : Bool := c.isAlpha

/-! ## Between angle brackets -/

/-- Whether the character may stand in the first part of an email address. -/
def isMailChar (c : Char) : Bool :=
  c.isAlphanum || "!#$%&'*+-./=?^_`\x7b|\x7d~".toList.contains c

/-- Whether a text is one label of a domain: letters, digits and inner hyphens, at most 63 of
them. -/
def isDomainLabel (cs : List Char) : Bool :=
  !cs.isEmpty && cs.length ≤ 63 && cs.all (fun c => c.isAlphanum || c == '-') &&
    cs.head? != some '-' && cs.getLast? != some '-'

/-- Whether a text is a domain. -/
def isDomain (cs : List Char) : Bool :=
  ((cs.splitOn '.').all isDomainLabel)

/-- Whether a text is an email address. -/
def isMail (cs : List Char) : Bool :=
  let name := cs.takeWhile isMailChar
  match cs.drop name.length with
  | '@' :: domain => !name.isEmpty && isDomain domain
  | _ => false

/-- Whether a text is an address with a scheme of two to 32 characters. -/
def isSchemed (cs : List Char) : Bool :=
  let scheme := cs.takeWhile fun c => c.isAlphanum || c == '+' || c == '-' || c == '.'
  match cs.drop scheme.length with
  | ':' :: rest =>
    (scheme.head?.map isLetter).getD false && 2 ≤ scheme.length && scheme.length ≤ 32 &&
      rest.all fun c => 0x20 < c.toNat && c.toNat != 0x7f && c != '<'
  | _ => false

/-- A link between angle brackets, after its first bracket. -/
def bracketed? (bracket : Cell) (cells : List Cell) : Option (Inline × List Cell) :=
  let inner := cells.takeWhile (·.char != '>')
  match cells.drop inner.length with
  | [] => none
  | last :: rest =>
    let address := inner.map (·.char)
    let span : Span := ⟨bracket.start, last.stop⟩
    if isSchemed address then some (.autolink (textOf inner) inner span, rest)
    else if isMail address then some (.autolink ("mailto:" ++ textOf inner) inner span, rest)
    else none

/-! ## Web addresses -/

/-- Marks that do not belong to an address when they are at its end. -/
def isTrailing (c : Char) : Bool :=
  "!\"'),*.:;?_~".toList.contains c

/-- What has been read of a possible end of an address. -/
inductive Trail where
  | marks
  /-- An ampersand; whether a letter was read after it. -/
  | reference (letters : Bool)
  /-- A closing bracket. -/
  | bracket
  deriving DecidableEq, Repr

/-- Whether a text is the end of an address: marks that belong to no address, up to white space, an
opening angle bracket, or a bracket that may end the text of a link. -/
def isTrail (trail : Trail) : List Char → Bool
  | [] =>
    match trail with
    | .reference _ => false
    | _ => true
  | c :: cs =>
    match trail with
    | .reference letters =>
      if isLetter c then isTrail (.reference true) cs
      else if c = ';' ∧ letters = true then isTrail .marks cs
      else false
    | .marks =>
      if isTrailing c then isTrail .marks cs
      else if c = '&' then isTrail (.reference false) cs
      else if c = '<' then true
      else if c = ']' then isTrail .bracket cs
      else isBlank c
    | .bracket =>
      if isIndent c || c = '\n' || c = '(' || c = '[' then true
      else if isTrailing c then isTrail .marks cs
      else if c = '&' then isTrail (.reference false) cs
      else if c = '<' then true
      else if c = ']' then isTrail .bracket cs
      else isBlank c

/-- What a domain's last two segments hold so far. -/
structure DomainState where
  seen : Bool := false
  lineInLast : Bool := false
  lineBefore : Bool := false
  deriving DecidableEq, Repr

/-- The length of the domain at the front of a text, if it is one: it has a character that is no
mark, and no low line in its last two segments. -/
def domainLength? (state : DomainState) : List Char → Option Nat
  | [] => if state.seen && !state.lineInLast && !state.lineBefore then some 0 else none
  | c :: cs =>
    let stop := if state.seen && !state.lineInLast && !state.lineBefore then some 0 else none
    if c = '.' ∨ c = '_' then
      if isTrail .marks (c :: cs) then stop
      else
        let state :=
          if c = '_' then { state with lineInLast := true }
          else { state with lineBefore := state.lineInLast, lineInLast := false }
        (domainLength? state cs).map (· + 1)
    else if c = '-' then (domainLength? state cs).map (· + 1)
    else if Side.of (some c) = .word then
      (domainLength? { state with seen := true } cs).map (· + 1)
    else stop

/-- The length of the path at the front of a text.  A closing parenthesis at its end belongs to it
only if it closes one in the path. -/
def pathLength (opened closed : Nat) : List Char → Nat
  | [] => 0
  | c :: cs =>
    if c = '(' then pathLength (opened + 1) closed cs + 1
    else if isTrailing c || c = '&' || c = '<' || c = ']' then
      if isTrail .marks (c :: cs) && !(c = ')' && closed < opened) then 0
      else pathLength opened (if c = ')' then closed + 1 else closed) cs + 1
    else if isBlank c then 0
    else pathLength opened closed cs + 1

/-- The length of an address after its first part. -/
def addressLength? (cs : List Char) : Option Nat := do
  let domain ← domainLength? {} cs
  return domain + pathLength 0 0 (cs.drop domain)

/-- The rest of a text after a start given in lower case. -/
def dropStartFolded? (start cs : List Char) : Option (List Char) :=
  if (cs.take start.length).map Char.toLower = start then some (cs.drop start.length) else none

/-- Whether a web address without a scheme may follow a character. -/
def allowsWeb (before : Option Char) : Bool :=
  match before with
  | none => true
  | some c => isIndent c || c == '\n' || "(*_[]~".toList.contains c

/-- The length of the web address at the front of a text, and what its link starts with.  `before`
is the character before it in the same text. -/
def webAddress? (before : Option Char) (cs : List Char) : Option (Nat × String) :=
  let schemed (scheme : String) : Option (Nat × String) := do
    let rest ← dropStartFolded? scheme.toList cs
    return (scheme.length + (← addressLength? rest), "")
  if (before.map isLetter).getD false then none
  else
    schemed "http://" <|> schemed "https://" <|> do
      let rest ← dropStartFolded? "www.".toList cs
      if rest.isEmpty || !allowsWeb before then none
      return (4 + (← addressLength? rest), "http://")

/-- A web address at the front of some cells. -/
def webLink? (before : Option Char) (cells : List Cell) : Option (Inline × List Cell) := do
  let (length, scheme) ← webAddress? before (cells.map (·.char))
  let text := cells.take length
  return (.autolink (scheme ++ textOf text) text (cellSpan text), cells.drop length)

/-! ## Email addresses -/

/-- Whether the character may stand before the at sign of a bare email address. -/
def isBareMailChar (c : Char) : Bool :=
  c.isAlphanum || c == '+' || c == '-' || c == '.' || c == '_'

/-- The length of the domain of a bare email address: it has a point, and ends in a letter or a
point.  A `path` may hold slashes. -/
def mailDomainLength? (path : Bool) (cs : List Char) : Option Nat :=
  let length := scan cs
  let domain := cs.take length
  let last := (domain.getLast?.map fun c => isLetter c || c == '.').getD false
  if domain.contains '.' && last then some length else none
where
  scan : List Char → Nat
    | [] => 0
    | c :: cs =>
      if c.isAlphanum || c == '-' || c == '_' || (path && c == '/') then scan cs + 1
      else if c == '.' && (cs.head?.map Char.isAlphanum).getD false then scan cs + 1
      else 0

/-- How many of the cells before an at sign, which are given in reverse, belong to an email address,
and what its link starts with. -/
def mailStart? (before : List Char) : Option (Nat × String) :=
  let name := (before.takeWhile isBareMailChar).length
  let rest := before.drop name
  if name = 0 || rest.head? == some '/' then none
  else
    match rest with
    | ':' :: rest =>
      let scheme := (rest.takeWhile Char.isAlphanum).reverse
      let folded := String.ofList (scheme.map Char.toLower)
      if folded == "xmpp" || folded == "mailto" then some (name + 1 + scheme.length, "")
      else some (name, "mailto:")
    | _ => some (name, "mailto:")

/-- Whether an email address that takes some characters, in reverse, is one of a chat. -/
def isChat (before : List Char) : Bool :=
  (String.ofList (before.reverse.map Char.toLower)).startsWith "xmpp:"

/-- A part of a text that is data, with its email addresses as links.  `before` is what has been
read since the last link, in reverse, and `skip` cells belong to the last link. -/
def mailLinks (before : List Cell) (skip : Nat) : List Cell → List Inline
  | [] => if before.isEmpty then [] else [.data before.reverse]
  | c :: cells =>
    match skip with
    | skip + 1 => mailLinks before skip cells
    | 0 =>
      let found : Option (Nat × String × Nat) := do
        if c.char ≠ '@' then none
        let (taken, scheme) ← mailStart? (before.map (·.char))
        let chat := isChat ((before.take taken).map (·.char))
        let length ← mailDomainLength? chat (cells.map (·.char))
        return (taken, scheme, length)
      match found with
      | some (taken, scheme, length) =>
        let text := (before.take taken).reverse ++ c :: cells.take length
        let rest := before.drop taken
        (if rest.isEmpty then [] else [.data rest.reverse]) ++
          .autolink (scheme ++ textOf text) text (cellSpan text) :: mailLinks [] length cells
      | none => mailLinks (c :: before) 0 cells

mutual

/-- A part with the email addresses outside links as links. -/
def Inline.mailed : Inline → List Inline
  | .data cells => mailLinks [] 0 cells
  | .enclosed (.link target) span parts => [.enclosed (.link target) span parts]
  | .enclosed kind span parts => [.enclosed kind span (mailedAll parts)]
  | part => [part]

/-- Parts with the email addresses outside links as links. -/
def mailedAll : List Inline → List Inline
  | [] => []
  | part :: parts => part.mailed ++ mailedAll parts

end

end Folio.Markdown
