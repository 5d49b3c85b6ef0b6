import DocPress.Text.Utf8
import DocPress.Yaml.BlockScalar
import DocPress.Yaml.QuotedScalar
import DocPress.Yaml.Token

/-!
# Properties and directives

Anchors name a node and aliases refer to it; tags say of what kind a node is. Directives stand
before a document and tell about its version and the handles that its tags use.
-/

namespace DocPress.Yaml

/-- The name behind the sign of an anchor or an alias, and the place behind it. -/
def anchorName (c : Cursor) : Except Error (Text × Cursor) :=
  let name := c.rest.takeWhile isNameChar
  let rest := c.rest.drop name.length
  if name.isEmpty then .error .token
  else if atGap rest || rest.head?.any ("?:,]\x7d%@".toList ++ ['`']).contains then
    .ok (name, c.jump rest)
  else .error .token

/-! ## Tags -/

/-- The character may be part of a tag as it is. -/
def isUriChar (c : Char) : Bool :=
  c.isAlphanum || "-;/?:@&=+$,_.!~*'()[]".toList.contains c

/-- The bytes of the escapes at the start of a text. The first `skip` characters are read
already. -/
def uriBytes (skip : Nat) : Text → Except Error (List UInt8)
  | [] => .ok []
  | c :: r =>
    match skip with
    | k + 1 => uriBytes k r
    | 0 =>
      if c ≠ '%' then .ok []
      else
        let ds := r.take 2
        if ds.length = 2 && ds.all isHexDigit then
          (uriBytes 2 r).map ((Numeral.value 16 ds).toUInt8 :: ·)
        else .error .token

/-- What is left of a text behind the characters and escapes of a tag, and what they write. Each
round passes a character or a row of escapes. -/
def uriFrom : (fuel : Nat) → Text → Except Error (Text × Text)
  | 0, t => .ok ([], t)
  | fuel + 1, t =>
    match t with
    | [] => .ok ([], [])
    | c :: r =>
      if isUriChar c then (uriFrom fuel r).map fun (u, rest) => (c :: u, rest)
      else if c ≠ '%' then .ok ([], t)
      else do
        let bytes ← uriBytes 0 t
        match Utf8.decode bytes with
        | .error _ => throw .token
        | .ok word =>
          let (u, rest) ← uriFrom fuel (t.drop (3 * bytes.length))
          return (word ++ u, rest)

/-- The characters of a tag at the start of a text, of which there is one at least, and the rest
of the text. -/
def uri (t : Text) : Except Error (Text × Text) := do
  let (u, rest) ← uriFrom (t.length + 1) t
  if rest.length = t.length then throw .token
  return (u, rest)

/-- The handle at the start of a text, from one exclamation mark to the next or a single one
before a space, and the rest of the text. -/
def handle (t : Text) : Except Error (Text × Text) :=
  match t with
  | '!' :: ' ' :: r => .ok (['!'], ' ' :: r)
  | '!' :: r =>
    let name := r.takeWhile isNameChar
    match r.drop name.length with
    | '!' :: rest => .ok ('!' :: name ++ ['!'], rest)
    | _ => .error .token
  | _ => .error .token

/-- A tag, of which the exclamation mark is the next character: its handle, the rest of it, and
the place behind it. -/
def tag (c : Cursor) : Except Error (Option Text × Text × Cursor) := do
  let r := c.rest.drop 1
  let (name, word, rest) ←
    if r.head? = some '<' then do
      let (u, rest) ← uri (r.drop 1)
      if rest.head? ≠ some '>' then throw .token
      pure (none, u, rest.drop 1)
    else if atGap r then pure (none, ['!'], r)
    else if ((r.takeWhile fun x => !(x = ' ' || isBreak x)).contains '!') then do
      let (name, rest) ← handle c.rest
      let (u, rest) ← uri rest
      pure (some name, u, rest)
    else do
      let (u, rest) ← uri r
      pure (some ['!'], u, rest)
  if atSpace rest then return (name, word, c.jump rest) else throw .token

/-! ## Directives -/

/-- The number at the start of a text, and the rest. -/
def versionNumber (t : Text) : Except Error (Nat × Text) :=
  let ds := t.takeWhile Char.isDigit
  if ds.isEmpty then .error .token
  else if ds.length > Numeral.maxDigits then .error (.range (.longNumeral ds.length))
  else .ok (Numeral.value 10 ds, t.drop ds.length)

/-- The two numbers of a version, and the rest of the text. -/
def version (t : Text) : Except Error (Directive × Text) := do
  let (major, rest) ← versionNumber (t.dropWhile (· = ' '))
  if rest.head? ≠ some '.' then throw .token
  let (minor, rest) ← versionNumber (rest.drop 1)
  if atSpace rest then return (.version major minor, rest) else throw .token

/-- A handle and what it stands for, and the rest of the text. -/
def handleMeaning (t : Text) : Except Error (Directive × Text) := do
  let (name, rest) ← handle (t.dropWhile (· = ' '))
  if rest.head? ≠ some ' ' then throw .token
  let (start, rest) ← uri (rest.dropWhile (· = ' '))
  if atSpace rest then return (.handle name start, rest) else throw .token

/-- A directive, of which the percent sign is the next character, and the place behind it. -/
def directive (c : Cursor) : Except Error (Directive × Cursor) := do
  let t := c.rest.drop 1
  let name := t.takeWhile isNameChar
  let rest := t.drop name.length
  if name.isEmpty || !atSpace rest then throw .token
  let (d, rest) ←
    if name = "YAML".toList then version rest
    else if name = "TAG".toList then handleMeaning rest
    else pure (.other, rest.dropWhile (!isBreak ·))
  return (d, ← skipEmptyLine (c.jump rest))

end DocPress.Yaml
