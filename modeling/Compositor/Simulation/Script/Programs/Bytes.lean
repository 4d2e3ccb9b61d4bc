import Compositor.Simulation.Script.Formatted
import Compositor.Simulation.Script.Programs.Digests
import Compositor.Simulation.Script.Programs.Lines

set_option autoImplicit false

/-!
# Programs for bytes

## Main definitions

* `Script.Programs.View` — how bytes are shown.
* `Script.Programs.dumped` — bytes in lines with their places.
* `Script.Programs.encoded`, `Script.Programs.decoded?` — bytes as letters and back.
* `Script.Programs.byteTable` — the programs that show, sum and compare bytes.
-/

namespace Compositor.Script.Programs

/-! ## Showing bytes -/

/-- How a group of bytes is shown. -/
inductive ViewKind where
  /-- As characters with escapes. -/
  | escaped
  /-- As characters with names. -/
  | named
  /-- As a number with a sign. -/
  | signed
  /-- As a number in a base. -/
  | unsigned (base : Nat)
  /-- As a real number. -/
  | real
deriving DecidableEq

/-- How bytes are shown. -/
structure View where
  /-- How a group is shown. -/
  kind : ViewKind
  /-- The number of bytes in a group. -/
  size : Nat
  /-- Whether the characters stand at the end of each line. -/
  hasText : Bool

/-- The number of characters that a group needs. -/
def View.width (view : View) : Nat :=
  match view.kind, view.size with
  | .escaped, _ | .named, _ => 3
  | .signed, 1 => 4
  | .signed, 2 => 6
  | .signed, 4 => 11
  | .signed, _ => 20
  | .unsigned 8, n => [(1, 3), (2, 6), (4, 11)].lookup n |>.getD 22
  | .unsigned 16, n => 2 * n
  | .unsigned _, n => [(1, 3), (2, 5), (4, 10)].lookup n |>.getD 20
  | .real, 4 => 15
  | .real, _ => 24

/-- The names of the first characters. -/
def controlNames : List String :=
  ["nul", "soh", "stx", "etx", "eot", "enq", "ack", "bel", "bs", "ht", "nl", "vt", "ff", "cr", "so",
    "si", "dle", "dc1", "dc2", "dc3", "dc4", "nak", "syn", "etb", "can", "em", "sub", "esc", "fs",
    "gs", "rs", "us", "sp"]

/-- A byte as a character with escapes. -/
def escapedByte (n : Nat) : String :=
  match n with
  | 0 => "\\0"
  | 7 => "\\a"
  | 8 => "\\b"
  | 9 => "\\t"
  | 10 => "\\n"
  | 11 => "\\v"
  | 12 => "\\f"
  | 13 => "\\r"
  | n =>
    if 32 ≤ n && n < 127 then String.singleton (Char.ofNat n)
    else
      let digits := Nat.toDigits 8 n
      String.ofList (List.replicate (3 - digits.length) '0' ++ digits)

/-- A group of bytes as it is shown. -/
def View.text (view : View) (bytes : List Nat) : String :=
  let n := bytes.foldr (fun byte n => 256 * n + byte) 0
  let zeros (width : Nat) (digits : List Char) : String :=
    String.ofList (List.replicate (width - digits.length) '0' ++ digits)
  match view.kind with
  | .escaped => escapedByte n
  | .named =>
    let low := n % 128
    if low = 127 then "del"
    else (controlNames[low]?).getD (String.singleton (Char.ofNat low))
  | .signed =>
    let limit := Nat.pow 256 view.size
    toString (if limit ≤ 2 * n then (n : Int) - limit else n)
  | .unsigned 10 => toString n
  | .unsigned base => zeros view.width (Nat.toDigits base n)
  | .real =>
    let x := if view.size = 4 then (Float32.ofBits n.toUInt32).toFloat else Float.ofBits n.toUInt64
    String.ofList (Layout.real ⟨[], 0, some (if view.size = 4 then 8 else 17)⟩ 'g' x)

/-- The views that a type such as `x1z` stands for, as far as the fuel goes. -/
def viewsOf (whole : String) : Nat → List Char → Except String (List View)
  | 0, _ => .ok []
  | _, [] => .ok []
  | fuel + 1, c :: rest =>
    let kind? : Option ViewKind := match c with
      | 'a' => some .named
      | 'c' => some .escaped
      | 'd' => some .signed
      | 'o' => some (.unsigned 8)
      | 'u' => some (.unsigned 10)
      | 'x' => some (.unsigned 16)
      | 'f' => some .real
      | _ => none
    match kind? with
    | none => .error ("invalid character " ++ inQuotes (String.singleton c) ++ " in type string " ++
        inQuotes whole)
    | some kind =>
      let digits := if c = 'a' || c = 'c' then [] else rest.takeWhile Char.isDigit
      let rest := rest.drop digits.length
      let (size, rest) : Nat × List Char :=
        if c = 'a' || c = 'c' then (1, rest)
        else if !digits.isEmpty then (ofDigits 10 digits, rest)
        else
          match rest with
          | 'C' :: rest => (1, rest)
          | 'S' :: rest => (2, rest)
          | 'I' :: rest => (4, rest)
          | 'L' :: rest => (8, rest)
          | 'F' :: rest => (4, rest)
          | 'D' :: rest => (8, rest)
          | rest => (if c = 'f' then 8 else 4, rest)
      if !([1, 2, 4, 8].contains size) then
        .error ("invalid type string " ++ inQuotes whole ++ ";\nthis system doesn\x27t provide a " ++
          toString size ++ "-byte integral type")
      else
        match rest with
        | 'z' :: rest => (viewsOf whole fuel rest).map (⟨kind, size, true⟩ :: ·)
        | rest => (viewsOf whole fuel rest).map (⟨kind, size, false⟩ :: ·)

/-- One view of the bytes of a line, in which there is room for so many bytes. Groups are spread
over a width. -/
def View.row (view : View) (room width : Nat) (bytes : List Nat) : String :=
  let count := room / view.size
  let pad := width - view.width * count
  let groups := (chunks view.size bytes).map fun group =>
    group ++ List.replicate (view.size - group.length) 0
  let used := groups.length
  let before (i : Nat) : Nat := pad * (count - i) / count
  let shown := String.join (groups.zipIdx.map fun (group, i) =>
    rightAligned (view.width + (before i - before (i + 1))) (view.text group))
  if view.hasText then
    let missing := (List.range count).drop used
    let gap := (missing.map fun i => view.width + (before i - before (i + 1))).foldl (· + ·) 0
    let text := bytes.map fun n => if 32 ≤ n && n < 127 then Char.ofNat n else '.'
    shown ++ spaces (gap + 2) ++ ">" ++ String.ofList text ++ "<"
  else shown

/-- A place in some base. -/
def addressText (base : Char) (n : Nat) : String :=
  let padded (width : Nat) (digits : List Char) : String :=
    String.ofList (List.replicate (width - digits.length) '0' ++ digits)
  match base with
  | 'n' => ""
  | 'd' => padded 7 (Nat.toDigits 10 n)
  | 'x' => padded 6 (Nat.toDigits 16 n)
  | _ => padded 7 (Nat.toDigits 8 n)

/-- Bytes in lines with their places, from a place on. Lines like the one before them may be left
out. -/
def dumped (views : List View) (base : Char) (size start : Nat) (all : Bool) (bytes : List Nat) :
    String :=
  let width := views.foldl
    (fun width view => max width ((view.width + 1) * (size / view.size))) 0
  let rows := (chunks size bytes).zipIdx
  let step (state : List String × Option (List Nat) × Bool) (row : List Nat × Nat) :
      List String × Option (List Nat) × Bool :=
    let (done, last, isHidden) := state
    let (line, n) := row
    if !all && last == some line && line.length = size then
      (if isHidden then done else "*\n" :: done, last, true)
    else
      let address := addressText base (start + n * size)
      let shown := views.zipIdx.map fun (view, i) =>
        (if i = 0 then address else spaces address.length) ++ view.row size width line ++ "\n"
      (String.join shown :: done, some line, false)
  let (done, _, _) := rows.foldl step ([], none, false)
  let final := if base = 'n' then "" else addressText base (start + bytes.length) ++ "\n"
  String.join done.reverse ++ final

/-- The views for the letters of options. -/
def letterViews : List (String × String) :=
  [("a", "a"), ("b", "o1"), ("c", "c"), ("d", "u2"), ("f", "f4"), ("h", "x2"), ("i", "d4"),
    ("l", "d8"), ("o", "o2"), ("s", "d2"), ("x", "x2")]

/-- Shows bytes. -/
def od : Utility := fun arguments => do
  let grammar := Grammar.standard "od" "A:abcdfhij:lN:oS:st:vw::x"
    [("address-radix:", "A"), ("skip-bytes:", "j"), ("read-bytes:", "N"), ("strings::", "S"),
      ("format:", "t"), ("output-duplicates", "v"), ("width::", "w"), ("endian:", "endian"),
      ("traditional", "traditional")]
  let options ← grammar.take arguments
  let base ← match (options.value? "A").map String.toList with
    | none => pure 'o'
    | some (c :: _) =>
      if ['d', 'o', 'x', 'n'].contains c then pure c else badRadix (String.singleton c)
    | some [] => badRadix ""
  let mut asked : List View := []
  for (name, value) in options.given do
    let text := if name = "t" then value else (letterViews.lookup name).getD ""
    match viewsOf text (text.length + 1) text.toList with
    | .ok more => asked := asked ++ more
    | .error cause => quit "od" 1 cause
  let views := if asked.isEmpty then [⟨.unsigned 8, 2, false⟩] else asked
  let unit := views.foldl (fun n view => max n view.size) 1
  let size ← match options.value? "w" with
    | none => pure 16
    | some "" => pure 32
    | some text =>
      match text.toNat? with
      | some n =>
        if n = 0 || n % unit ≠ 0 then do
          report "od" ("warning: invalid width " ++ toString n ++ "; using " ++ toString unit ++
            " instead")
          pure unit
        else pure n
      | none => quit "od" 1 ("invalid -w argument " ++ inQuotes text)
  let number (name : String) : Shell (Option Nat) := do
    match options.value? name with
    | none => return none
    | some text =>
      let hex := text.startsWith "0x"
      let found := if hex then some (ofDigits 16 (text.toList.drop 2)) else multiple? text
      match found with
      | some n => return some n
      | none => quit "od" 1 ("invalid -" ++ name ++ " argument " ++ inQuotes text)
  let skipped := (← number "j").getD 0
  let limit ← number "N"
  Shell.finish 0
  let mut parts : List String := []
  for path in if options.operands.isEmpty then ["-"] else options.operands do
    let found ← if path = "-" && limit.isSome then
        (do return Except.ok (← takeBytes (skipped + limit.getD 0)))
      else inputOf path
    match found with
    | .ok text => parts := parts ++ [text]
    | .error cause =>
      report "od" (quotedName path ++ ": " ++ cause)
      Shell.finish 1
  let content := String.join parts
  if content.length < skipped then quit "od" 1 "cannot skip past end of combined input"
  let rest := content.toList.drop skipped
  let kept := match limit with
    | some n => rest.take n
    | none => rest
  if (← get).status = 0 || !parts.isEmpty then
    Shell.put (dumped views base size skipped (options.has "v") (kept.map Char.toNat))
where
  /-- Ends the program because of a base. -/
  badRadix (text : String) : Shell Char :=
    quit "od" 1 ("invalid output address radix " ++ inQuotes text ++
      "; it must be one character from [doxn]")
  /-- Takes so many bytes. -/
  takeBytes (wanted : Nat) : Shell String := do
    let mut taken := ""
    for _ in List.range 100000 do
      if wanted ≤ taken.length then break
      let more ← Shell.takeChunk 0 (wanted - taken.length)
      if more = "" then break
      taken := taken ++ more
    return taken

/-! ## Bytes as letters -/

/-- How bytes are written with letters. -/
structure Alphabet where
  /-- The letters. -/
  letters : List Char
  /-- The number of bits for which a letter stands. -/
  bits : Nat
  /-- The number of letters in a group. -/
  group : Nat

/-- The alphabet with 64 letters. -/
def base64Letters : Alphabet :=
  ⟨"ABCDEFGHIJKLMNOPQRSTUVWXYZabcdefghijklmnopqrstuvwxyz0123456789+/".toList, 6, 4⟩

/-- The alphabet with 32 letters. -/
def base32Letters : Alphabet := ⟨"ABCDEFGHIJKLMNOPQRSTUVWXYZ234567".toList, 5, 8⟩

/-- Bytes written with letters. -/
def encoded (alphabet : Alphabet) (text : List Char) : List Char :=
  let size := alphabet.bits * alphabet.group / 8
  let letters := alphabet.letters.toArray
  (chunks size text).flatMap fun group =>
    let n := (group ++ List.replicate (size - group.length) '\x00').foldl
      (fun n c => 256 * n + c.toNat) 0
    let used := (8 * group.length + alphabet.bits - 1) / alphabet.bits
    (List.range alphabet.group).map fun i =>
      if i < used then
        letters.getD (n / Nat.pow 2 (alphabet.bits * (alphabet.group - 1 - i)) %
          Nat.pow 2 alphabet.bits) '='
      else '='

/-- The bytes for which groups of letters stand, and whether all of them stand for some. -/
def decodedGroups (alphabet : Alphabet) : List (List Char) → List Char × Bool
  | [] => ([], true)
  | group :: rest =>
    let letters := (group.takeWhile (· != '=')).filterMap alphabet.letters.idxOf?
    let plain := group.takeWhile (· != '=')
    let size := alphabet.bits * letters.length / 8
    let n := letters.foldl (fun n digit => n * Nat.pow 2 alphabet.bits + digit) 0 *
      Nat.pow 2 (alphabet.bits * (alphabet.group - letters.length))
    let total := alphabet.bits * alphabet.group / 8
    let bytes := (List.range size).map fun i => Char.ofNat (n / Nat.pow 256 (total - 1 - i) % 256)
    let isWhole := letters.length = plain.length && group.length = alphabet.group &&
      (group.drop plain.length).all (· == '=') &&
      (plain.length = alphabet.group || (alphabet.bits * plain.length) % 8 < alphabet.bits)
    if !isWhole || size = 0 then (if letters.length = plain.length then bytes else [], false)
    else
      let (more, complete) := decodedGroups alphabet rest
      (bytes ++ more, complete)

/-- Writes bytes with letters, or the bytes for which letters stand. -/
def encodeWith (program : String) (alphabet : Alphabet) : Utility := fun arguments => do
  let grammar := Grammar.standard program "diw:"
    [("decode", "d"), ("ignore-garbage", "i"), ("wrap:", "w")]
  let options ← grammar.take arguments
  match options.operands with
  | _ :: extra :: _ => grammar.extraOperand extra
  | _ => pure ()
  let width ← match options.value? "w" with
    | none => pure 76
    | some text =>
      match text.toNat? with
      | some n => pure n
      | none => quit program 1 ("invalid wrap size: " ++ inQuotes text)
  let path := options.operands.headD "-"
  match ← inputOf path with
  | .error cause =>
    if cause = "Is a directory" then quit program 1 ("read error: " ++ cause)
    else quit program 1 (quotedName path ++ ": " ++ cause)
  | .ok text =>
    if options.has "d" then
      let kept := text.toList.filter fun c =>
        if options.has "i" then alphabet.letters.contains c || c == '=' else c != '\n'
      let (bytes, complete) := decodedGroups alphabet (chunks alphabet.group kept)
      Shell.put (String.ofList bytes)
      if complete then Shell.finish 0 else quit program 1 "invalid input"
    else
      let letters := encoded alphabet text.toList
      Shell.put (if width = 0 then String.ofList letters
        else ofLines ((chunks width letters).map String.ofList))
      Shell.finish 0

/-! ## Sums -/

/-- Checks the sums of files in a list. -/
def checkSums (program : String) (size : Nat) (digest : ByteArray → String) (options : Options)
    (path : String) : Shell Unit := do
  let name := if path = "-" then "standard input" else path
  match ← inputOf path with
  | .error cause =>
    report program (quotedName path ++ ": " ++ cause)
    Shell.finish 1
  | .ok text =>
    let entries := (linesOf text).filterMap (record? size)
    if entries.isEmpty then
      report program ((if path = "-" then inQuotes name else quotedName name) ++
        ": no properly formatted checksum lines found")
      Shell.finish 1
    let mut bad := 0
    let mut unread := 0
    for (sum, file) in entries do
      match ← inputOf file with
      | .ok content =>
        let isRight := digest (Octets.toBytes content) = String.ofList (sum.map Char.toLower)
        if !isRight then bad := bad + 1
        if !options.has "status" && !(isRight && options.has "quiet") then
          Shell.put (file ++ (if isRight then ": OK\n" else ": FAILED\n"))
      | .error cause =>
        if !options.has "missing" then
          report program (quotedName file ++ ": " ++ cause)
          unread := unread + 1
          if !options.has "status" then Shell.put (file ++ ": FAILED open or read\n")
    let warn (count : Nat) (one many : String) : Shell Unit := do
      if count ≠ 0 then
        Shell.finish 1
        if !options.has "status" then
          report program ("WARNING: " ++ toString count ++ " " ++ if count = 1 then one else many)
    warn unread "listed file could not be read" "listed files could not be read"
    warn bad "computed checksum did NOT match" "computed checksums did NOT match"
where
  /-- The sum and the name of a file that a line tells. -/
  record? (size : Nat) (line : String) : Option (List Char × String) :=
    let sum := line.toList.takeWhile fun c => c.isDigit || ('a' ≤ c && c ≤ 'f') ||
      ('A' ≤ c && c ≤ 'F')
    match line.toList.drop sum.length with
    | ' ' :: mark :: name =>
      if sum.length = size && (mark = ' ' || mark = '*') then some (sum, String.ofList name)
      else none
    | _ =>
      match line.splitOn ") = " with
      | [front, digest] =>
        match front.splitOn " (" with
        | _ :: name => if digest.length = size then some (digest.toList, " (".intercalate name)
            else none
        | [] => none
      | _ => none

/-- Writes the digests of files, or checks them. -/
def sumWith (program label : String) (size : Nat) (digest : ByteArray → String) : Utility :=
  fun arguments => do
    let grammar := Grammar.standard program "bctwz"
      [("binary", "b"), ("check", "c"), ("text", "t"), ("warn", "w"), ("tag", "tag"),
        ("zero", "z"), ("status", "status"), ("quiet", "quiet"), ("strict", "strict"),
        ("ignore-missing", "missing")]
    let options ← grammar.take arguments
    Shell.finish 0
    for path in if options.operands.isEmpty then ["-"] else options.operands do
      if options.has "c" then checkSums program size digest options path
      else
        match ← inputOf path with
        | .error cause =>
          report program (quotedName path ++ ": " ++ cause)
          Shell.finish 1
        | .ok text =>
          let sum := digest (Octets.toBytes text)
          let ending := if options.has "z" then "\x00" else "\n"
          Shell.put (if options.has "tag" then label ++ " (" ++ path ++ ") = " ++ sum ++ ending
            else sum ++ (if options.has "b" then " *" else "  ") ++ path ++ ending)

/-- Writes a short sum of a file. -/
def shortSum (kind : String) (name : Option String) (text : String) : String :=
  let bytes := Octets.toBytes text
  let suffix := match name with
    | some path => " " ++ path
    | none => ""
  match kind with
  | "sysv" => toString (Digest.plainSum bytes) ++ " " ++ toString ((bytes.size + 511) / 512) ++ suffix
  | "bsd" =>
    let digits := toString (Digest.rotatedSum bytes)
    String.ofList (List.replicate (5 - digits.length) '0') ++ digits ++ " " ++
      padded 5 ((bytes.size + 1023) / 1024) ++ suffix
  | _ => toString (Digest.crc bytes) ++ " " ++ toString bytes.size ++ suffix

/-- The digests with their names, labels and lengths. -/
def digestTable : List (String × String × Nat × (ByteArray → String)) :=
  [("md5", "MD5", 32, Digest.md5), ("sha1", "SHA1", 40, Digest.sha1),
    ("sha224", "SHA224", 56, Digest.sha2 224), ("sha256", "SHA256", 64, Digest.sha2 256),
    ("sha384", "SHA384", 96, Digest.sha2 384), ("sha512", "SHA512", 128, Digest.sha2 512)]

/-- Writes sums of files. -/
def cksum : Utility := fun arguments => do
  let grammar := Grammar.standard "cksum" "a:bcz"
    [("algorithm:", "a"), ("untagged", "untagged"), ("tag", "tag"), ("check", "c"), ("zero", "z"),
      ("raw", "raw"), ("base64", "base64"), ("length:", "l"), ("status", "status"),
      ("quiet", "quiet")]
  let options ← grammar.take arguments
  let kind := (options.value? "a").getD "crc"
  match digestTable.lookup kind with
  | some (label, size, digest) =>
    let others := options.operands
    let tag := if options.has "untagged" then [] else ["--tag"]
    sumWith "cksum" label size digest (tag ++ "--" :: others)
  | none =>
    if !(["crc", "bsd", "sysv"].contains kind) then
      grammar.misuse ("invalid argument " ++ inQuotes kind ++ " for \x27--algorithm\x27")
    overInputs "cksum" options.operands () fun _ path text =>
      let name := if options.operands.isEmpty then none else some path
      Shell.put (shortSum kind name text ++ "\n")

/-- Writes short sums of files. -/
def sum : Utility := fun arguments => do
  let grammar := Grammar.standard "sum" "rs" [("sysv", "s")]
  let options ← grammar.take arguments
  let kind := if options.last? ["r", "s"] == some "s" then "sysv" else "bsd"
  overInputs "sum" options.operands () fun _ path text =>
    let name := if options.operands.isEmpty then none else some path
    Shell.put (shortSum kind name text ++ "\n")

/-! ## Comparing -/

/-- The number of bytes that two texts begin with in common. -/
def commonLength : List Char → List Char → Nat
  | a :: left, b :: right => if a = b then commonLength left right + 1 else 0
  | _, _ => 0

/-- A byte in three places. -/
def octalByte (c : Char) : String :=
  rightAligned 3 (String.ofList (Nat.toDigits 8 c.toNat))

/-- Compares two inputs byte by byte. -/
def cmp : Utility := fun arguments => do
  let grammar := { (Grammar.standard "cmp" "bi:ln:s"
    [("print-bytes", "b"), ("ignore-initial:", "i"), ("verbose", "l"), ("bytes:", "n"),
      ("quiet", "s"), ("silent", "s")]).failingWith 2 with
    hint := "cmp: Try \x27cmp --help\x27 for more information.\n" }
  let options ← grammar.take arguments
  let skips := ((options.value? "i").getD "0").splitOn ":"
  let skip (n : Nat) : Nat := (((skips[n]?).or skips.head?).bind multiple?).getD 0
  match options.operands with
  | [] => grammar.missingOperand none
  | first :: rest =>
    let second := rest.headD "-"
    match rest.drop 1 with
    | a :: b :: _ =>
      if (multiple? a).isNone then
        grammar.misuse ("invalid --ignore-initial value " ++ inQuotes a)
      if (multiple? b).isNone then
        grammar.misuse ("invalid --ignore-initial value " ++ inQuotes b)
    | [a] =>
      if (multiple? a).isNone then
        grammar.misuse ("invalid --ignore-initial value " ++ inQuotes a)
    | [] => pure ()
    let skipOf (n : Nat) : Nat := (((rest.drop 1)[n]?).bind multiple?).getD (skip n)
    let readOne (path : String) : Shell String := do
      match ← inputOf path with
      | .ok text => return text
      | .error cause =>
        if options.has "s" then leave 2 else quit "cmp" 2 (path ++ ": " ++ cause)
    let limit := (options.value? "n").bind multiple?
    let cutOff (n : Nat) (text : String) : List Char :=
      let rest := text.toList.drop (skipOf n)
      match limit with
      | some n => rest.take n
      | none => rest
    let left := cutOff 0 (← readOne first)
    let right := cutOff 1 (← readOne second)
    let same := commonLength left right
    if left = right then Shell.finish 0
    else
      Shell.finish 1
      let shorter := min left.length right.length
      let line (n : Nat) : Nat := (left.take n).count '\n' + 1
      if options.has "l" && !options.has "s" then
        let width := (toString (match limit with
          | some n => min n shorter
          | none => shorter)).length
        let pairs := ((left.zip right).zipIdx 1).filter fun entry => entry.1.1 != entry.1.2
        Shell.put (String.join (pairs.map fun ((a, b), n) =>
          if options.has "b" then
            padded width n ++ " " ++ octalByte a ++ " " ++
              leftAligned 4 (String.ofList (visible a)) ++ " " ++ octalByte b ++ " " ++
              String.ofList (visible b) ++ "\n"
          else padded width n ++ " " ++ octalByte a ++ " " ++ octalByte b ++ "\n"))
      if options.has "s" then pure ()
      else if same = shorter || options.has "l" && left.length ≠ right.length then
        let path := if left.length < right.length then first else second
        if shorter = 0 then report "cmp" ("EOF on " ++ path ++ " which is empty")
        else
          report "cmp" ("EOF on " ++ path ++ " after byte " ++ toString shorter ++
            if options.has "l" then ""
            else if (left.take shorter).getLast? == some '\n' then
              ", line " ++ toString (line shorter - 1)
            else ", in line " ++ toString (line shorter))
      else if !options.has "l" then
        let place := " differ: " ++ (if options.has "b" then "byte " else "char ") ++
          toString (same + 1) ++ ", line " ++ toString (line same)
        let shown := match left.drop same, right.drop same with
          | a :: _, b :: _ =>
            " is " ++ octalByte a ++ " " ++ String.ofList (visible a) ++ " " ++ octalByte b ++ " " ++
              String.ofList (visible b)
          | _, _ => ""
        Shell.put (first ++ " " ++ second ++ place ++ (if options.has "b" then shown else "") ++ "\n")

/-- The programs that show, sum and compare bytes. -/
def byteTable : List (String × Program) :=
  [("od", alone od), ("base64", alone (encodeWith "base64" base64Letters)),
    ("base32", alone (encodeWith "base32" base32Letters)), ("cksum", alone cksum),
    ("sum", alone sum), ("cmp", alone cmp)] ++
    digestTable.map fun (name, label, size, digest) =>
      (name ++ "sum", alone (sumWith (name ++ "sum") label size digest))

end Compositor.Script.Programs
