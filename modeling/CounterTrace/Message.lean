import CounterTrace.Failure

/-!
# Messages and reports

While it works the library tells what it finds, in messages with a severity. A report is a result
together with the messages that were emitted on the way to it, in order; a failure ends the report,
and the messages before it are kept.

## Main definitions

* `Severity`, `Message` — a message and how much it matters
* `Message.texts` — the texts of a list of messages, perhaps of one severity only
* `Report` — messages and a result, with its composition
-/

namespace CounterTrace

/-- How much a message matters. -/
inductive Severity where
  | debug
  | info
  | warning
  | error
  | critical
  deriving DecidableEq

/-- The number of a severity. -/
def Severity.level : Severity → Int
  | .debug => 10
  | .info => 20
  | .warning => 30
  | .error => 40
  | .critical => 50

/-- A text with its severity. -/
structure Message where
  severity : Severity
  text : String
  deriving DecidableEq

/-- The texts of messages in order: of all of them, or of those of one severity. -/
def Message.texts (messages : List Message) (severity : Option Severity) : List String :=
  (messages.filter fun message => severity.all (· == message.severity)).map (·.text)

/-- A result and the messages emitted on the way to it. -/
structure Report (α : Type) where
  messages : List Message
  result : Except Failure α

namespace Report

/-- The report that emits nothing. -/
def pure {α : Type} (a : α) : Report α := ⟨[], .ok a⟩

/-- One report after another: the messages of both, as far as the first gives a result. -/
def bind {α β : Type} (first : Report α) (next : α → Report β) : Report β :=
  match first.result with
  | .error failure => ⟨first.messages, .error failure⟩
  | .ok a => ⟨first.messages ++ (next a).messages, (next a).result⟩

instance : Monad Report where
  pure := Report.pure
  bind := Report.bind

/-- The report of one message. -/
def tell (severity : Severity) (text : String) : Report Unit := ⟨[⟨severity, text⟩], .ok ()⟩

/-- A report without messages. -/
def ofExcept {α : Type} (result : Except Failure α) : Report α := ⟨[], result⟩

@[simp] theorem pure_eq {α : Type} (a : α) : (Pure.pure a : Report α) = ⟨[], .ok a⟩ := rfl

@[simp] theorem bind_ok {α β : Type} (messages : List Message) (a : α) (next : α → Report β) :
    ((⟨messages, .ok a⟩ : Report α) >>= next) =
      ⟨messages ++ (next a).messages, (next a).result⟩ := rfl

@[simp] theorem bind_error {α β : Type} (messages : List Message) (failure : Failure)
    (next : α → Report β) :
    ((⟨messages, .error failure⟩ : Report α) >>= next) = ⟨messages, .error failure⟩ := rfl

/-- A report in two parts gives a result if both parts do. -/
theorem bind_result_eq_ok {α β : Type} {first : Report α} {next : α → Report β} {b : β} :
    (first >>= next).result = .ok b ↔
      ∃ a, first.result = .ok a ∧ (next a).result = .ok b := by
  obtain ⟨messages, failure | a⟩ := first <;> simp

/-- Where the first part gives a result, the second part decides. -/
theorem bind_result_of_ok {α β : Type} {first : Report α} {next : α → Report β} {a : α}
    (known : first.result = .ok a) : (first >>= next).result = (next a).result := by
  obtain ⟨messages, failure | b⟩ := first
  · cases known
  · obtain rfl := Except.ok.inj known
    rfl

/-- Two reports with one first part are the same if what follows on its result is. -/
theorem bind_congr {α β : Type} {first : Report α} {next other : α → Report β}
    (same : ∀ a, first.result = .ok a → next a = other a) : first >>= next = first >>= other := by
  obtain ⟨messages, failure | a⟩ := first
  · rfl
  · rw [bind_ok, bind_ok, same a rfl]

/-- A report in two parts fails where its first part fails, or else its second. -/
theorem bind_result_eq_error {α β : Type} {first : Report α} {next : α → Report β}
    {failure : Failure} :
    (first >>= next).result = .error failure ↔
      first.result = .error failure ∨
        ∃ a, first.result = .ok a ∧ (next a).result = .error failure := by
  obtain ⟨messages, earlier | a⟩ := first <;> simp

end Report

end CounterTrace
