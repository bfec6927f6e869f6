/-
  Foundation/Dialogue.lean --- programs that put questions to the outside and go on with
  whatever is answered.

  WHAT THIS FILE IS FOR.  A program that runs other programs, reads files and writes its own
  state cannot assume anything about the answers, and it may be killed between any two of
  them.  A `Dialogue` is such a program as data: it is done, or it asks and goes on with the
  answer.  `Follows` says which exchanges a run can have; a killed run is one that ends early.

  PROVING SAFETY.  A `Protocol` watches the exchanges through a ghost value: what it relies
  on, what it guarantees, how the ghost moves.  `Keeps` is computed along the dialogue; by
  `Keeps.along` it holds of every exchange of every run, finished or killed.

  PROVING LITTLE OF MUCH.  A dialogue `Within` some questions asks no others, and then keeps
  whatever each exchange over them keeps.
-/
import Mathlib

namespace ConstellationMonitor.Foundation

/-- A question with the answer it got. -/
structure Exchange {Ask : Type} (Answer : Ask → Type) where
  question : Ask
  answer : Answer question

/-- A program that asks questions, each with its kind of answer, and ends with a value. -/
inductive Dialogue {Ask : Type} (Answer : Ask → Type) (α : Type) : Type where
  | done (value : α)
  | ask (question : Ask) (next : Answer question → Dialogue Answer α)

variable {Ask : Type} {Answer : Ask → Type} {α β γ : Type}

namespace Dialogue

def bind (dialogue : Dialogue Answer α) (next : α → Dialogue Answer β) : Dialogue Answer β :=
  match dialogue with
  | .done value => next value
  | .ask question rest => .ask question fun answer => (rest answer).bind next

instance : Monad (Dialogue Answer) where
  pure := .done
  bind := .bind

/-- Ask one question. -/
def question (asked : Ask) : Dialogue Answer (Answer asked) := .ask asked .done

/-- The exchanges a run can have, with the value of a run that was not killed. -/
inductive Follows : Dialogue Answer α → List (Exchange Answer) → Option α → Prop
  | killed (dialogue : Dialogue Answer α) : Follows dialogue [] none
  | done (value : α) : Follows (.done value) [] (some value)
  | ask {question : Ask} {next : Answer question → Dialogue Answer α} {answer : Answer question}
      {rest : List (Exchange Answer)} {result : Option α} (h : Follows (next answer) rest result) :
      Follows (.ask question next) (⟨question, answer⟩ :: rest) result

end Dialogue

/-! ## Protocols -/

/-- What is watched of a run: the ghost moves with every exchange, the outside is relied on
and the program guarantees something in return. -/
structure Protocol {Ask : Type} (Answer : Ask → Type) (γ : Type) where
  next : γ → Exchange Answer → γ
  rely : γ → Exchange Answer → Prop
  guarantee : γ → Exchange Answer → Prop

namespace Protocol

variable (protocol : Protocol Answer γ)

/-- The ghost after some exchanges. -/
def after (ghost : γ) (exchanges : List (Exchange Answer)) : γ :=
  exchanges.foldl protocol.next ghost

@[simp] theorem after_nil (ghost : γ) : protocol.after ghost [] = ghost := rfl

@[simp] theorem after_cons (ghost : γ) (exchange : Exchange Answer)
    (rest : List (Exchange Answer)) :
    protocol.after ghost (exchange :: rest) = protocol.after (protocol.next ghost exchange) rest :=
  rfl

/-- A property of the ghost and the next exchange, at every exchange of a run. -/
def Along (holds : γ → Exchange Answer → Prop) : γ → List (Exchange Answer) → Prop
  | _, [] => True
  | ghost, exchange :: rest =>
    holds ghost exchange ∧ Along holds (protocol.next ghost exchange) rest

variable {ghost : γ} {holds : γ → Exchange Answer → Prop}

theorem along_append {left right : List (Exchange Answer)} :
    protocol.Along holds ghost (left ++ right) ↔
      protocol.Along holds ghost left ∧ protocol.Along holds (protocol.after ghost left) right := by
  induction left generalizing ghost with
  | nil => simp [Along]
  | cons exchange rest ih => simp [Along, ih, and_assoc]

/-- What holds along a run holds at each exchange, of the ghost that has seen those before. -/
theorem Along.at {before later : List (Exchange Answer)} {exchange : Exchange Answer}
    (h : protocol.Along holds ghost (before ++ exchange :: later)) :
    holds (protocol.after ghost before) exchange :=
  (protocol.along_append.mp h).2.1

theorem along_of_forall {exchanges : List (Exchange Answer)}
    (h : ∀ before exchange later, exchanges = before ++ exchange :: later →
      holds (protocol.after ghost before) exchange) : protocol.Along holds ghost exchanges := by
  induction exchanges generalizing ghost with
  | nil => trivial
  | cons exchange rest ih =>
    refine ⟨h [] exchange rest rfl, ih fun before other later hsplit => ?_⟩
    exact h (exchange :: before) other later (by rw [hsplit]; rfl)

end Protocol

namespace Dialogue

/-- Whatever is answered, as far as the protocol relies on it, every exchange keeps the
guarantee and the end meets `post`. -/
def Keeps (protocol : Protocol Answer γ) :
    Dialogue Answer α → γ → (α → γ → Prop) → Prop
  | .done value, ghost, post => post value ghost
  | .ask question next, ghost, post => ∀ answer, protocol.rely ghost ⟨question, answer⟩ →
      protocol.guarantee ghost ⟨question, answer⟩ ∧
        Keeps protocol (next answer) (protocol.next ghost ⟨question, answer⟩) post

variable {protocol : Protocol Answer γ}

variable {ghost : γ} {dialogue : Dialogue Answer α}

theorem Keeps.mono {post weaker : α → γ → Prop} (h : dialogue.Keeps protocol ghost post)
    (hpost : ∀ value end', post value end' → weaker value end') :
    dialogue.Keeps protocol ghost weaker := by
  induction dialogue generalizing ghost with
  | done value => exact hpost value ghost h
  | ask question next ih =>
    intro answer hrely
    obtain ⟨hguarantee, hnext⟩ := h answer hrely
    exact ⟨hguarantee, ih answer hnext⟩

/-- The guarantee holds of every exchange of a run that may have been killed, as long as what
is relied on holds, and a finished run ends as said. -/
theorem Keeps.along {post : α → γ → Prop} {exchanges : List (Exchange Answer)} {result : Option α}
    (h : dialogue.Keeps protocol ghost post) (hrun : dialogue.Follows exchanges result)
    (hrely : protocol.Along protocol.rely ghost exchanges) :
    protocol.Along protocol.guarantee ghost exchanges ∧
      ∀ value, result = some value → post value (protocol.after ghost exchanges) := by
  induction hrun generalizing ghost with
  | killed dialogue => exact ⟨trivial, fun value hvalue => by cases hvalue⟩
  | done value =>
    refine ⟨trivial, fun other hvalue => ?_⟩
    cases hvalue
    exact h
  | ask hrest ih =>
    obtain ⟨hfirst, hlater⟩ := hrely
    obtain ⟨hguarantee, hnext⟩ := h _ hfirst
    obtain ⟨halong, hend⟩ := ih hnext hlater
    exact ⟨⟨hguarantee, halong⟩, hend⟩

theorem keeps_question {asked : Ask} {next : Answer asked → Dialogue Answer α}
    {post : α → γ → Prop} :
    (question asked >>= next).Keeps protocol ghost post ↔
      ∀ answer, protocol.rely ghost ⟨asked, answer⟩ → protocol.guarantee ghost ⟨asked, answer⟩ ∧
        (next answer).Keeps protocol (protocol.next ghost ⟨asked, answer⟩) post := Iff.rfl

theorem keeps_ite {condition : Prop} [Decidable condition] {other : Dialogue Answer α}
    {post : α → γ → Prop} :
    (if condition then dialogue else other).Keeps protocol ghost post ↔
      (condition → dialogue.Keeps protocol ghost post) ∧
        (¬condition → other.Keeps protocol ghost post) := by
  split <;> simp_all

/-! ## Dialogues within some questions -/

/-- The dialogue asks only some questions. -/
def Within (allowed : Ask → Prop) : Dialogue Answer α → Prop
  | .done _ => True
  | .ask question next => allowed question ∧ ∀ answer, Within allowed (next answer)

namespace Within

variable {allowed : Ask → Prop}

theorem done (value : α) : Within allowed (.done value : Dialogue Answer α) := trivial

theorem question {asked : Ask} (h : allowed asked) :
    Within allowed (Dialogue.question asked : Dialogue Answer (Answer asked)) :=
  ⟨h, fun _ => trivial⟩

theorem bind {next : α → Dialogue Answer β} (h : Within allowed dialogue)
    (hnext : ∀ value, Within allowed (next value)) : Within allowed (dialogue >>= next) := by
  induction dialogue with
  | done value => exact hnext value
  | ask question rest ih => exact ⟨h.1, fun answer => ih answer (h.2 answer)⟩

theorem ite {condition : Prop} [Decidable condition] {other : Dialogue Answer α}
    (h : Within allowed dialogue) (hother : Within allowed other) :
    Within allowed (if condition then dialogue else other) := by
  split
  · exact h
  · exact hother

/-- A dialogue that asks only some questions keeps what each exchange over them keeps. -/
theorem keeps (h : Within allowed dialogue) (holds : γ → Prop) (hstart : holds ghost)
    (hstep : ∀ ghost exchange, allowed exchange.question → holds ghost →
      protocol.rely ghost exchange →
      protocol.guarantee ghost exchange ∧ holds (protocol.next ghost exchange)) :
    dialogue.Keeps protocol ghost fun _ end' => holds end' := by
  induction dialogue generalizing ghost with
  | done value => exact hstart
  | ask question next ih =>
    intro answer hrely
    obtain ⟨hguarantee, hafter⟩ := hstep ghost ⟨question, answer⟩ h.1 hstart hrely
    exact ⟨hguarantee, ih answer (h.2 answer) hafter⟩

end Within

end Dialogue

end ConstellationMonitor.Foundation
