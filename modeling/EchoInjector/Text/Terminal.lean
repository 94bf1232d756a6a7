/-!
# Text without terminal control

Messages for a person carry control sequences that set off their parts, and they may quote what a
user typed, so they could carry others that a terminal would obey. Where the output is no
terminal, all such sequences are left out, together with every control character that is not
plain spacing.

A **control sequence** starts with the escape character. After it comes one of these forms:

* a single final character, possibly after some intermediate ones;
* a parameter list opened by `[` and closed by a character from `@` to `~`;
* a string opened by `]`, which runs until the bell;
* a string opened by `P`, which has parameters of its own before its content, or by `X`, `^` or
  `_`; only a character that is encoded with the octet `9c` ends it.

The escape character ends any sequence and starts another, and the cancel and substitute
characters end any sequence. Spacing inside one of the first two forms is kept although the
sequence is not complete.

There are two ways to go on behind such spacing. A text that is read as a whole (`plain`) takes it
for the end of the sequence. In a text that is written piece by piece (`piped`) the spacing starts
a **run**: whatever can be shown is kept, and the first character that cannot be shown takes up
the sequence again where the spacing had left it.
-/

namespace EchoInjector.Text.Terminal

/-- How far a control sequence has been read. -/
inductive Phase
  /-- Outside any sequence. -/
  | ground
  /-- Behind the escape character. -/
  | escape
  /-- Behind intermediate characters. -/
  | intermediate
  /-- Inside a parameter list. -/
  | parameters
  /-- Inside a string that the bell ends. -/
  | bellString
  /-- At the start of a string with parameters. -/
  | stringStart
  /-- Inside the parameters of a string. -/
  | stringParameters
  /-- Behind the intermediate characters that follow the parameters of a string. -/
  | stringIntermediate
  /-- Inside the content of a string. -/
  | string
  deriving DecidableEq, Repr

/-- Spacing that is kept among the control characters: tab, line feed, form feed, return. -/
def isSpacing (c : Char) : Bool :=
  c.toNat = 9 || c.toNat = 10 || c.toNat = 12 || c.toNat = 13

/-- Whether a character can be shown: it is spacing, or no control character of ASCII. -/
def isShown (c : Char) : Bool :=
  isSpacing c || (32 ≤ c.toNat && c.toNat ≠ 127)

/-- Whether a character is encoded with the octet that ends a string. -/
def endsString (c : Char) : Bool :=
  (String.utf8EncodeChar c).contains 0x9c

/-- Whether a phase keeps a character. -/
def Phase.keeps (p : Phase) (c : Char) : Bool :=
  match p with
  | .ground => isShown c
  | .escape | .intermediate | .parameters => isSpacing c
  | _ => false

/-- The phase behind a character of ASCII that is neither a control character nor the delete
character. -/
def Phase.afterVisible (p : Phase) (c : Char) : Phase :=
  let n := c.toNat
  match p with
  | .ground => .ground
  | .escape =>
    if n < 48 then .intermediate
    else if c = '[' then .parameters
    else if c = ']' then .bellString
    else if c = 'P' then .stringStart
    else if c = 'X' || c = '^' || c = '_' then .string
    else .ground
  | .intermediate => if n < 48 then .intermediate else .ground
  | .parameters => if n < 64 then .parameters else .ground
  | .bellString => .bellString
  | .stringStart =>
    if n < 48 then .stringIntermediate else if n < 64 then .stringParameters else .string
  | .stringParameters =>
    if n < 48 then .stringIntermediate else if n < 60 then .stringParameters else .string
  | .stringIntermediate => if n < 48 then .stringIntermediate else .string
  | .string => .string

/-- The phase behind a character. Control characters and characters outside ASCII leave most
phases as they are. -/
def Phase.after (p : Phase) (c : Char) : Phase :=
  let n := c.toNat
  if n = 27 then .escape
  else if n = 24 || n = 26 then .ground
  else if 128 ≤ n then (if p = .string && endsString c then .ground else p)
  else if n = 7 && p = .bellString then .ground
  else if n < 32 || n = 127 then p
  else p.afterVisible c

/-- A text that is being read. -/
structure Reader where
  phase : Phase := .ground
  /-- Whether everything that can be shown is being kept, whatever the phase. -/
  running : Bool := false
  /-- What was kept, the last character first. -/
  kept : List Char := []

/-- Takes a character of a text that is read as a whole. -/
def Reader.take (r : Reader) (c : Char) : Reader :=
  if r.phase.keeps c then { r with phase := .ground, kept := c :: r.kept }
  else { r with phase := r.phase.after c }

/-- Takes a character of a text that is written piece by piece. Inside a run, a character outside
ASCII ends the sequence for good, and other characters that are kept leave the phase alone. -/
def Reader.takePiped (r : Reader) (c : Char) : Reader :=
  if r.running && isShown c then
    { r with phase := if 128 ≤ c.toNat then .ground else r.phase, kept := c :: r.kept }
  else if r.phase.keeps c then
    { phase := r.phase.after c, running := true, kept := c :: r.kept }
  else { r with phase := r.phase.after c, running := false }

/-- What a reader has kept. -/
def Reader.text (r : Reader) : String := String.ofList r.kept.reverse

/-- A text, read as a whole, without control sequences and without control characters other than
spacing. -/
def plain (s : String) : String :=
  (s.toList.foldl Reader.take {}).text

/-- A text, written piece by piece, without control sequences and without control characters other
than spacing. -/
def piped (s : String) : String :=
  (s.toList.foldl Reader.takePiped {}).text

end EchoInjector.Text.Terminal
