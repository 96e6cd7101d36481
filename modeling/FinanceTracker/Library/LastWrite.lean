import FinanceTracker.Library.Runs

/-!
# Messages that carry the full state of a key

Each message sets the value of its key. What a view shows of a key is then the
value of the last message of that key, however the messages are ordered.
-/

namespace FinanceTracker.Library.LastWrite

open Runs

variable {Key Value Message : Type*} [DecidableEq Key] (key : Message → Key)
  (value : Message → Value)

def write (view : Key → Value) (message : Message) : Key → Value :=
  Function.update view (key message) (value message)

def lastOf (messages : List Message) (wanted : Key) : Option Message :=
  messages.reverse.find? fun message => key message = wanted

theorem last_of_snoc (messages : List Message) (message : Message) (wanted : Key) :
    lastOf key (messages ++ [message]) wanted =
      if key message = wanted then some message else lastOf key messages wanted := by
  unfold lastOf
  rw [List.reverse_append]
  by_cases here : key message = wanted
  · simp [here]
  · simp [here]

theorem last_of_mem {messages : List Message} {wanted : Key} {message : Message}
    (last : lastOf key messages wanted = some message) :
    message ∈ messages ∧ key message = wanted := by
  constructor
  · exact List.mem_reverse.mp (List.mem_of_find?_eq_some last)
  · simpa using List.find?_some last

theorem last_of_none_iff {messages : List Message} {wanted : Key} :
    lastOf key messages wanted = none ↔ ∀ message ∈ messages, key message ≠ wanted := by
  unfold lastOf
  simp

theorem run_writes (view : Key → Value) (messages : List Message) (wanted : Key) :
    runFrom (write key value) view messages wanted =
      ((lastOf key messages wanted).map value).getD (view wanted) := by
  induction messages using List.reverseRecOn with
  | nil => rfl
  | append_singleton messages message ih =>
    rw [run_from_snoc, last_of_snoc]
    unfold write
    rw [Function.update_apply]
    by_cases here : key message = wanted
    · rw [if_pos here, if_pos here.symm]
      rfl
    · rw [if_neg here, if_neg (Ne.symm here)]
      exact ih

theorem views_agree_iff (view : Key → Value) {first second : List Message}
    (same : ∀ message, message ∈ first ↔ message ∈ second) :
    runFrom (write key value) view first = runFrom (write key value) view second ↔
      ∀ wanted last other, lastOf key first wanted = some last →
        lastOf key second wanted = some other → value last = value other := by
  constructor
  · intro agree wanted _ _ isLast isOther
    have shown := congrFun agree wanted
    rw [run_writes, run_writes, isLast, isOther] at shown
    exact shown
  · intro lasts
    funext wanted
    rw [run_writes, run_writes]
    cases isLast : lastOf key first wanted with
    | none =>
      have absent : lastOf key second wanted = none := by
        rw [last_of_none_iff] at isLast ⊢
        intro message member
        exact isLast message ((same message).mpr member)
      rw [absent]
    | some last =>
      cases isOther : lastOf key second wanted with
      | none =>
        have stored := last_of_mem key isLast
        have absent := (last_of_none_iff key).mp isOther last ((same last).mp stored.1)
        exact absurd stored.2 absent
      | some other =>
        have carried := lasts wanted last other isLast isOther
        simp [carried]

end FinanceTracker.Library.LastWrite
