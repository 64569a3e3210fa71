/-
  The asynchronous idioms that a method may use, as tags.

  * `Tag` and its written names (`Tag.name`, `Tag.ofName?`); `Tag.ofName?_eq_some_iff` says that a
    tag is read exactly from its name;
  * `Tag.parse` reads a name with blanks around it, or reports the text;
  * `Tag.family` groups the tags by what the code is doing;
  * `TagSet` is a set of tags, listed in the order of `Tag.all`.
-/
import AsyncIdioms.Text.Blank

namespace AsyncIdioms

/-- An asynchronous idiom. A method may have several. -/
inductive Tag where
  | tap
  | apmBegin
  | apmEnd
  | eap
  | taskCreation
  | threadPoolQueue
  | backgroundWorker
  | threadStart
  | parallelFor
  | parallelForEach
  | parallelInvoke
  | asyncDelegate
  | iSynchronizeInvoke
  | controlBeginInvoke
  | dispatcherBeginInvoke
  | dispatcherInvoke
  deriving DecidableEq, Repr, Inhabited

/-- What the code of an idiom is doing. -/
inductive Family where
  /-- The task-based, `Begin`/`End` and event-based idioms. -/
  | main
  /-- Moving work to another thread. -/
  | offloading
  /-- Going back to the thread of the user interface. -/
  | guiUpdate
  deriving DecidableEq, Repr

/-- The written name of a family. -/
def Family.name : Family → String
  | main => "Main"
  | offloading => "Offloading"
  | guiUpdate => "GuiUpdate"

namespace Tag

/-- All tags, in their order. -/
def all : List Tag :=
  [tap, apmBegin, apmEnd, eap, taskCreation, threadPoolQueue, backgroundWorker, threadStart,
    parallelFor, parallelForEach, parallelInvoke, asyncDelegate, iSynchronizeInvoke,
    controlBeginInvoke, dispatcherBeginInvoke, dispatcherInvoke]

@[simp]
theorem mem_all (t : Tag) : t ∈ all := by cases t <;> decide

/-- The written name of a tag. -/
def name : Tag → String
  | tap => "TAP"
  | apmBegin => "APMBegin"
  | apmEnd => "APMEnd"
  | eap => "EAP"
  | taskCreation => "TaskCreation"
  | threadPoolQueue => "ThreadPoolQueue"
  | backgroundWorker => "BackgroundWorker"
  | threadStart => "ThreadStart"
  | parallelFor => "ParallelFor"
  | parallelForEach => "ParallelForEach"
  | parallelInvoke => "ParallelInvoke"
  | asyncDelegate => "AsyncDelegate"
  | iSynchronizeInvoke => "ISynchronizeInvoke"
  | controlBeginInvoke => "ControlBeginInvoke"
  | dispatcherBeginInvoke => "DispatcherBeginInvoke"
  | dispatcherInvoke => "DispatcherInvoke"

def family : Tag → Family
  | tap | apmBegin | apmEnd | eap => .main
  | iSynchronizeInvoke | controlBeginInvoke | dispatcherBeginInvoke | dispatcherInvoke => .guiUpdate
  | _ => .offloading

/-- The tag of that name. -/
def ofName? (s : String) : Option Tag := all.find? (·.name == s)

@[simp]
theorem ofName?_name (t : Tag) : ofName? t.name = some t := by cases t <;> decide

theorem ofName?_eq_some_iff {s : String} {t : Tag} : ofName? s = some t ↔ t.name = s :=
  ⟨fun h => by simpa using List.find?_some h, by rintro rfl; exact ofName?_name t⟩

theorem name_injective {s t : Tag} (h : s.name = t.name) : s = t := by
  have hs := ofName?_name s
  rw [h, ofName?_name] at hs
  exact (Option.some.inj hs).symm

/-- A text that names no tag. -/
structure Unknown where
  text : String
  deriving DecidableEq, Repr

def Unknown.message (e : Unknown) : String := "unknown pattern tag: " ++ e.text

/-- Reads a tag's name; blanks around it do not count. -/
def parse (s : String) : Except Unknown Tag :=
  match ofName? (Text.trim s) with
  | some t => .ok t
  | none => .error ⟨s⟩

end Tag

/-- A set of tags. -/
structure TagSet where
  has : Tag → Bool

namespace TagSet

instance : Membership Tag TagSet := ⟨fun s t => s.has t = true⟩

instance (s : TagSet) (t : Tag) : Decidable (t ∈ s) := inferInstanceAs (Decidable (s.has t = true))

def empty : TagSet := ⟨fun _ => false⟩

def insert (s : TagSet) (t : Tag) : TagSet := ⟨fun u => u == t || s.has u⟩

/-- The members, in the order of `Tag.all`. -/
def toList (s : TagSet) : List Tag := Tag.all.filter s.has

theorem mem_def {s : TagSet} {t : Tag} : t ∈ s ↔ s.has t = true := Iff.rfl

@[simp]
theorem not_mem_empty (t : Tag) : t ∉ empty := by simp [mem_def, empty]

@[simp]
theorem mem_insert {s : TagSet} {t u : Tag} : u ∈ s.insert t ↔ u = t ∨ u ∈ s := by
  simp [mem_def, insert]

@[simp]
theorem mem_toList {s : TagSet} {t : Tag} : t ∈ s.toList ↔ t ∈ s := by simp [toList, mem_def]

/-- Two sets with the same members are equal. -/
theorem ext {s u : TagSet} (h : ∀ t, t ∈ s ↔ t ∈ u) : s = u := by
  cases s with | mk f =>
  cases u with | mk g =>
  have : f = g := funext fun t => Bool.eq_iff_iff.2 (h t)
  rw [this]

end TagSet

end AsyncIdioms
