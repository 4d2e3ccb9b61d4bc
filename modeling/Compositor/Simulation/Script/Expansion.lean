import Compositor.Simulation.Script.Arithmetic
import Compositor.Simulation.Script.Pattern

set_option autoImplicit false

/-!
# Expansion of words

When a word is used its parts are replaced by what they name. What was not quoted then falls apart
into fields at the separators, and a field with a pattern becomes the paths that fit it.

## Main definitions

* `Script.Glyph` — a character of an expanded word, with its origin.
* `Script.glyphs` — replaces the parts of a word.
* `Script.split` — the fields of an expanded word.
* `Script.pathnames` — the paths that fit a field.
* `Script.fields`, `Script.textOf`, `Script.patternOf` — the ways in which a word is used.
-/

namespace Compositor.Script

/-- Where a character of an expanded word comes from. -/
inductive Origin where
  /-- It is written in the word. -/
  | plain
  /-- It is quoted. -/
  | quoted
  /-- It is part of what something was replaced by. -/
  | expanded
deriving DecidableEq

/-- What an expanded word is made of. -/
inductive Glyph where
  /-- A character. -/
  | char (c : Char) (origin : Origin)
  /-- Nothing, but there is a field even if nothing else belongs to it. -/
  | hold
  /-- The end of a field; if it counts as a space, empty fields around it vanish. -/
  | gap (isSpace : Bool)

/-- The characters of a text. -/
def Glyph.ofText (origin : Origin) (text : String) : List Glyph :=
  text.toList.map fun c => .char c origin

/-- A text that something was replaced by. -/
def Glyph.ofValue (inQuotes : Bool) (text : String) : List Glyph :=
  if inQuotes then .hold :: ofText .quoted text else ofText .expanded text

/-- A character that falls apart like the result of a replacement. -/
def Glyph.loosen : Glyph → Glyph
  | char c .plain => char c .expanded
  | glyph => glyph

/-- What is put between arguments that are joined. -/
def Session.joint (session : Session) : String :=
  match session.value? "IFS" with
  | none => " "
  | some separators => String.ofList (separators.toList.take 1)

/-- The value of a variable or parameter in an expanded word, which may fall apart into fields. -/
def valueGlyphs (session : Session) (splits : Bool) (name : String) (inQuotes : Bool) :
    Option (List Glyph) :=
  if name = "@" || name = "*" then
    if session.arguments.isEmpty then
      (if name = "*" && inQuotes then some [.hold] else some [])
    else
      let values := session.arguments.map (Glyph.ofValue inQuotes)
      let apart (glyph : Glyph) : List Glyph := [glyph].intercalate values
      if !splits || (name = "*" && inQuotes) then
        some (Glyph.ofValue inQuotes (session.joint.intercalate session.arguments))
      else if inQuotes then some (apart (.gap false))
      else if (session.value? "IFS").isSome then some (apart (.gap true))
      else some (apart (.char ' ' .expanded))
  else (session.value? name).map (Glyph.ofValue inQuotes)

/-- The value of a variable or parameter as one text. -/
def Session.joined? (session : Session) (name : String) : Option String :=
  if name = "@" || name = "*" then
    if session.arguments.isEmpty then none else some (session.joint.intercalate session.arguments)
  else session.value? name

/-- Requires that a variable has a value if the session is strict about it. -/
def requireValue (name : String) : Shell Unit := do
  let session ← get
  if session.options.contains 'u' && (session.joined? name).isNone && name ≠ "@" && name ≠ "*" then
    Shell.fail (name ++ ": parameter not set")

/-- The text of an expanded word. -/
def Glyph.text (glyphs : List Glyph) : String :=
  String.ofList (glyphs.filterMap fun
    | .char c _ => some c
    | .gap _ => some ' '
    | .hold => none)

/-- An expanded word as the characters of a pattern. -/
def Glyph.marked (glyphs : List Glyph) : List Pattern.Marked :=
  glyphs.filterMap fun
    | .char c origin => some (c, origin ≠ .quoted)
    | .gap _ => some (' ', false)
    | .hold => none

/-- The home directory of a user. -/
def Session.homeOf (session : Session) (user : String) : String :=
  let lines : List (List String) := match session.contents "/etc/passwd" with
    | .ok content => (content.splitOn "\n").map fun line => line.splitOn ":"
    | .error _ => []
  if user = "" then (session.value? "HOME").getD "~"
  else ((lines.find? fun entry => entry.head? == some user).bind fun entry => entry[5]?).getD
    ("~" ++ user)

/-! ## Cuts -/

/-- The characters before the end of a field. -/
def Glyph.upToGap (glyphs : List Glyph) : List Char :=
  (glyphs.takeWhile fun
    | .gap _ => false
    | _ => true).filterMap fun
    | .char c _ => some c
    | _ => none

/-- An expanded value without an end or a beginning that fits a pattern. -/
def Cut.apply (cut : Cut) (pattern : Pattern) (glyphs : List Glyph) : List Glyph :=
  let lengths := Pattern.lengths cut.longest glyphs
  let fits (part : List Glyph) : Bool := pattern.fits (Glyph.upToGap part)
  if cut.atEnd then
    match lengths.find? fun n => fits (glyphs.drop (glyphs.length - n)) with
    | some n => glyphs.take (glyphs.length - n)
    | none => glyphs
  else
    match lengths.find? fun n => fits (glyphs.take n) with
    | some n => glyphs.drop n
    | none => glyphs

/-- What is left of an expanded value, which is a field even if it is empty. -/
def Cut.value (cut : Cut) (pattern : Pattern) (inQuotes : Bool) (glyphs : List Glyph) :
    List Glyph :=
  let bare := glyphs.filter fun
    | .hold => false
    | _ => true
  let left := cut.apply pattern bare
  if inQuotes then
    .hold :: left.flatMap fun
      | .gap isSpace => [.gap isSpace, .hold]
      | glyph => [glyph]
  else left

mutual

/-- What a part of a word is replaced by. -/
def partGlyphs {γ : Type} (substitute : List γ → Shell String) (splits : Bool) :
    Part γ → Shell (List Glyph)
  | .text content => return Glyph.ofText .plain content
  | .quoted content => return .hold :: Glyph.ofText .quoted content
  | .home user => return Glyph.ofText .quoted ((← get).homeOf user)
  | .value name inQuotes => do
    requireValue name
    return (valueGlyphs (← get) splits name inQuotes).getD (Glyph.ofValue inQuotes "")
  | .length name inQuotes => do
    requireValue name
    let session ← get
    let length := ((session.joined? name).getD "").length
    return Glyph.ofValue inQuotes (toString length)
  | .ruled name rule word inQuotes => do
    let session ← get
    let missing := match session.joined? name with
      | none => true
      | some value => rule.emptyToo && value == ""
    let own := (valueGlyphs session splits name inQuotes).getD (Glyph.ofValue inQuotes "")
    match rule.remedy with
    | .fallback => if missing then ruledGlyphs substitute splits inQuotes word else return own
    | .replace =>
      if missing then return Glyph.ofValue inQuotes ""
      else ruledGlyphs substitute splits inQuotes word
    | .assign =>
      if missing then
        let value := Glyph.text (← wordGlyphs substitute false word)
        if !Session.isVariable name then Shell.fail (name ++ ": bad variable name")
        Shell.assign name value
        return Glyph.ofValue inQuotes value
      else return own
    | .refuse =>
      if missing then
        let text := Glyph.text (← wordGlyphs substitute false word)
        let text := if text ≠ "" then text
          else if rule.emptyToo then "parameter not set or null"
          else "parameter not set"
        Shell.fail (name ++ ": " ++ text)
      else return own
  | .cut name cut pattern inQuotes => do
    requireValue name
    let glyphs := (valueGlyphs (← get) splits name inQuotes).getD []
    let pattern := Pattern.ofMarked (Glyph.marked (← wordGlyphs substitute false pattern))
    return cut.value pattern inQuotes glyphs
  | .output commands inQuotes => return Glyph.ofValue inQuotes (← substitute commands)
  | .sum expression inQuotes => do
    let value ← evaluate (Glyph.text (← wordGlyphs substitute false expression))
    return Glyph.ofValue inQuotes (toString value)
  | .meaningless => Shell.fail "Bad substitution"

/-- What a word is replaced by that stands for the value of a variable. -/
def ruledGlyphs {γ : Type} (substitute : List γ → Shell String) (splits inQuotes : Bool) :
    List (Part γ) → Shell (List Glyph)
  | [] => return if inQuotes then [.hold] else []
  | part :: rest => do
    let first ← partGlyphs substitute splits part
    let others ← ruledGlyphs substitute splits inQuotes rest
    return first.map Glyph.loosen ++ others

/-- What a word is replaced by. -/
def wordGlyphs {γ : Type} (substitute : List γ → Shell String) (splits : Bool) :
    List (Part γ) → Shell (List Glyph)
  | [] => return []
  | part :: rest => do
    let first ← partGlyphs substitute splits part
    let others ← wordGlyphs substitute splits rest
    return first ++ others

end

/-! ## Fields -/

/-- What ended the last field. -/
inductive Boundary where
  /-- Nothing that matters. -/
  | none
  /-- Spaces; a separator that follows them ends the same field. -/
  | spaces

/-- The fields that have been found, the field that has been begun, and what ended the last one. -/
structure Splitting where
  /-- The fields, the last one first. -/
  found : List (List Pattern.Marked)
  /-- The field that has been begun, backwards. -/
  begun : Option (List Pattern.Marked)
  /-- What ended the last field. -/
  boundary : Boundary

namespace Splitting

/-- Ends the field that has been begun. -/
def close (splitting : Splitting) (boundary : Boundary) : Splitting :=
  match splitting.begun with
  | some field => ⟨field.reverse :: splitting.found, none, boundary⟩
  | none => { splitting with boundary := boundary }

/-- Adds characters to the field that has been begun, or begins one. -/
def add (splitting : Splitting) (characters : List Pattern.Marked) : Splitting :=
  { splitting with begun := some (characters ++ splitting.begun.getD []) }

/-- Goes on with a glyph. -/
def step (separators : List Char) (splitting : Splitting) : Glyph → Splitting
  | .hold => splitting.add []
  | .gap isSpace =>
    if !isSpace then splitting.close .none
    else if splitting.begun.isSome then splitting.close .spaces
    else splitting
  | .char c origin =>
    if origin = .expanded ∧ c ∈ separators then
      if c = ' ' ∨ c = '\t' ∨ c = '\n' then
        if splitting.begun.isSome then splitting.close .spaces else splitting
      else
        match splitting.begun, splitting.boundary with
        | some _, _ => splitting.close .none
        | none, .spaces => { splitting with boundary := .none }
        | none, .none => (splitting.add []).close .none
    else splitting.add [(c, origin ≠ .quoted)]

end Splitting

/-- The fields of an expanded word. -/
def split (separators : String) (glyphs : List Glyph) : List (List Pattern.Marked) :=
  ((glyphs.foldl (Splitting.step separators.toList) ⟨[], none, .none⟩).close .none).found.reverse

/-! ## Paths -/

/-- Whether a field has a pattern. -/
def hasPattern (field : List Pattern.Marked) : Bool :=
  field.any fun (c, special) => special && ['*', '?', '['].contains c

/-- The text of a field. -/
def fieldText (field : List Pattern.Marked) : String :=
  String.ofList (field.map Prod.fst)

/-- Splits a field at its slashes. -/
def fieldPieces : List Pattern.Marked → List (List Pattern.Marked)
  | [] => [[]]
  | (c, special) :: rest =>
    if c = '/' then [] :: fieldPieces rest
    else
      match fieldPieces rest with
      | [] => [[(c, special)]]
      | first :: others => ((c, special) :: first) :: others

/-- The names in a directory that fit a pattern. Names that begin with a dot must be asked for. -/
def fittingNames (session : Session) (directory : String) (piece : List Pattern.Marked) :
    List String :=
  let pattern := Pattern.ofMarked piece
  let names := match session.locate (if directory = "" then "." else directory) with
    | .ok place =>
      if session.files.hasDirectory place then
        [".", ".."] ++ (session.files.namesIn place).map Octets.ofText
      else []
    | .error _ => []
  names.filter fun name =>
    (name.toList.head? != some '.' || pattern.head? == some (.one '.')) &&
      pattern.fits name.toList

/-- The paths below a directory whose pieces fit patterns. -/
def pathsBelow (session : Session) (directory : String) : List (List Pattern.Marked) → List String
  | [] => [directory]
  | [piece] =>
    if hasPattern piece then (fittingNames session directory piece).map (directory ++ ·)
    else
      let path := directory ++ fieldText piece
      if (session.node? path).isSome then [path] else []
  | piece :: rest =>
    let names := if hasPattern piece then fittingNames session directory piece
      else [fieldText piece]
    names.flatMap fun name => pathsBelow session (directory ++ name ++ "/") rest

/-- The paths that fit a field, or its text if there are none. -/
def pathnames (session : Session) (field : List Pattern.Marked) : List String :=
  if hasPattern field && !session.options.contains 'f' then
    match pathsBelow session "" (fieldPieces field) with
    | [] => [fieldText field]
    | paths => paths.mergeSort fun a b => decide (a ≤ b)
  else [fieldText field]

/-! ## Uses -/

/-- The fields that a word stands for. -/
def fields {γ : Type} (substitute : List γ → Shell String) (word : List (Part γ)) :
    Shell (List String) := do
  let glyphs ← wordGlyphs substitute true word
  let session ← get
  return (split session.separators glyphs).flatMap (pathnames session)

/-- The text that a word stands for. -/
def textOf {γ : Type} (substitute : List γ → Shell String) (word : List (Part γ)) :
    Shell String := do
  return Glyph.text (← wordGlyphs substitute false word)

/-- The pattern that a word stands for. -/
def patternOf {γ : Type} (substitute : List γ → Shell String) (word : List (Part γ)) :
    Shell Pattern := do
  return Pattern.ofMarked (Glyph.marked (← wordGlyphs substitute false word))

end Compositor.Script
