/-!
# Terminal sequences

A terminal takes some characters as commands instead of showing them: control
characters, and sequences that an escape character starts. `strip` leaves what
is shown, for places that are no terminal: nothing else stays, and a text that
is shown as it is stays as it is. `highlight` and `emphasize` set a text apart by
a style, which also ends any sequence that the text leaves open.
-/

namespace SocketRelay.Text.Terminal

/-- What a terminal is in the middle of. -/
inductive State where
  | ground
  | escape
  /-- Behind an escape character and a blank or mark, before the letter that ends it. -/
  | escapeTail
  /-- A control sequence with its parameters. -/
  | control
  /-- A command of the operating system, up to a bell. -/
  | system
  /-- The start of a device control string. -/
  | device
  /-- The parameters of a device control string. -/
  | deviceParameters
  /-- Behind the parameters, before the letter that starts the string. -/
  | deviceTail
  /-- A string that a byte 9C ends. -/
  | string
  deriving DecidableEq, Repr

/-- Whether a control character moves on in the text. -/
def isSpacing (c : Char) : Bool := c ∈ ['\t', '\n', '\x0c', '\r']

namespace State

/-- Whether a character is shown. -/
def shows (s : State) (c : Char) : Bool :=
  match s with
  | ground => isSpacing c || (0x20 ≤ c.toNat && c ≠ '\x7f')
  | escape | escapeTail | control => isSpacing c
  | system | device | deviceParameters | deviceTail | string => false

/-- The state after the character that follows an escape character, unless it stays. -/
def afterEscape? (c : Char) : Option State :=
  match c with
  | '[' => some control
  | ']' => some system
  | 'P' => some device
  | 'X' | '^' | '_' => some string
  | c =>
    if ' ' ≤ c ∧ c ≤ '/' then some escapeTail
    else if '0' ≤ c ∧ c ≤ '~' then some ground
    else none

/-- The state after a character in the head of a device control string, unless it stays. What is out
of place there starts the string. -/
def afterDevice? (c : Char) (parameters : Bool) : Option State :=
  if ' ' ≤ c ∧ c ≤ '/' then some deviceTail
  else if '0' ≤ c ∧ c ≤ ';' ∨ '<' ≤ c ∧ c ≤ '?' ∧ !parameters then some deviceParameters
  else if '0' ≤ c ∧ c ≤ '~' then some string
  else none

/-- The state after a character, unless it stays. -/
def next? (s : State) (c : Char) : Option State :=
  if c = '\x1b' then some escape
  else if c = '\x18' ∨ c = '\x1a' then some ground
  else
    match s with
    | ground => none
    | escape => afterEscape? c
    | escapeTail => if '0' ≤ c ∧ c ≤ '~' then some ground else none
    | control => if '@' ≤ c ∧ c ≤ '~' then some ground else none
    | system => if c = '\x07' then some ground else none
    | device => afterDevice? c false
    | deviceParameters => afterDevice? c true
    | deviceTail => if '0' ≤ c ∧ c ≤ '~' then some string else none
    | string => if 0x9C ∈ String.utf8EncodeChar c then some ground else none

end State

/-- What is left of a text, from a state on. A run of shown characters goes on whatever sequence it
is in, and a character beyond ASCII ends the sequence. -/
def stripFrom (state : State) (showing : Bool) : List Char → List Char
  | [] => []
  | c :: cs =>
    let current := if showing then .ground else state
    if current.shows c then c :: stripFrom (if 0x80 ≤ c.toNat then .ground else state) true cs
    else stripFrom ((current.next? c).getD state) false cs

/-- What is shown in any state is shown outside of sequences. -/
theorem State.shows_ground {s : State} {c : Char} (h : s.shows c = true) :
    ground.shows c = true := by
  cases s <;> simp_all [shows]

/-- Nothing but shown characters is left. -/
theorem shows_of_mem_stripFrom {state : State} {showing : Bool} {c : Char} {cs : List Char}
    (h : c ∈ stripFrom state showing cs) : State.ground.shows c = true := by
  induction cs generalizing state showing with
  | nil => cases h
  | cons d cs ih =>
    simp only [stripFrom] at h
    generalize (if showing = true then State.ground else state) = current at h
    split at h
    · next hd =>
      rcases List.mem_cons.1 h with rfl | h
      · exact State.shows_ground hd
      · exact ih h
    · exact ih h

/-- A text of shown characters stays as it is. -/
theorem stripFrom_of_shown {showing : Bool} {cs : List Char}
    (h : ∀ c ∈ cs, State.ground.shows c = true) : stripFrom .ground showing cs = cs := by
  induction cs generalizing showing with
  | nil => rfl
  | cons d cs ih =>
    have hd := h d List.mem_cons_self
    have ht : stripFrom .ground true cs = cs := ih fun c hc => h c (List.mem_cons_of_mem d hc)
    simp [stripFrom, hd, ht]

/-- What is left of a text without control characters and sequences. -/
def strip (s : String) : String := String.ofList (stripFrom .ground false s.toList)

/-- A text in a style of the terminal, which is plain again behind it. -/
def styled (style : Nat) (s : String) : String := s!"\x1b[{style}m{s}\x1b[0m"

/-- A text in yellow. -/
def highlight (s : String) : String := styled 33 s

/-- A text in bold. -/
def emphasize (s : String) : String := styled 1 s

end SocketRelay.Text.Terminal
