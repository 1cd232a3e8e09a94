/-!
# Open documents

The text of every open document under its URI. The URIs stand in order.
-/

namespace JinieServer

abbrev Documents := List (String × String)

namespace Documents

def get? (documents : Documents) (uri : String) : Option String :=
  match documents with
  | [] => none
  | (other, text) :: rest => if other = uri then some text else get? rest uri

def insert (documents : Documents) (uri text : String) : Documents :=
  match documents with
  | [] => [(uri, text)]
  | (other, old) :: rest =>
    if other = uri then (uri, text) :: rest
    else if uri < other then (uri, text) :: (other, old) :: rest
    else (other, old) :: insert rest uri text

def erase (documents : Documents) (uri : String) : Documents :=
  documents.filter fun (other, _) => other ≠ uri

@[simp] theorem get?_insert (documents : Documents) (uri text key : String) :
    (documents.insert uri text).get? key = if uri = key then some text else documents.get? key := by
  induction documents with
  | nil => simp [insert, get?]
  | cons head rest ih =>
    obtain ⟨other, old⟩ := head
    simp only [insert]
    split
    · subst other; simp [get?]; split <;> simp_all
    · split
      · simp [get?]
      · simp only [get?, ih]
        split <;> split <;> simp_all

@[simp] theorem get?_erase (documents : Documents) (uri key : String) :
    (documents.erase uri).get? key = if uri = key then none else documents.get? key := by
  induction documents with
  | nil => simp [erase, get?]
  | cons head rest ih =>
    obtain ⟨other, old⟩ := head
    by_cases h : other = uri
    · subst other
      simp only [erase, ne_eq, decide_not, get?] at ih ⊢
      simp only [decide_true, Bool.not_true, Bool.false_eq_true, not_false_eq_true,
        List.filter_cons_of_neg]
      rw [ih]
      split <;> simp_all
    · simp only [erase, ne_eq, decide_not, get?] at ih ⊢
      rw [List.filter_cons_of_pos (by simp [h])]
      simp only [get?, ih]
      split <;> split <;> simp_all

end Documents

end JinieServer
