namespace AbilityScript

structure NameMap (α : Type) where
  entries : List (String × α)
  sorted : entries.Pairwise fun a b => a.1 < b.1

namespace NameMap

variable {α β : Type}

theorem string_lt_of_not_lt_of_ne {a b : String} (h : ¬ a < b) (hne : a ≠ b) : b < a := by
  rcases Std.lt_trichotomy a b with h1 | h1 | h1
  · exact absurd h1 h
  · exact absurd h1 hne
  · exact h1

def insertEntry (name : String) (item : α) : List (String × α) → List (String × α)
  | [] => [(name, item)]
  | entry :: rest =>
    if name < entry.1 then (name, item) :: entry :: rest
    else if name = entry.1 then (name, item) :: rest
    else entry :: insertEntry name item rest

theorem mem_insertEntry {name : String} {item : α} {e : String × α} {l : List (String × α)}
    (h : e ∈ insertEntry name item l) : e = (name, item) ∨ e ∈ l := by
  induction l with
  | nil => simpa [insertEntry] using h
  | cons head tail ih =>
    simp only [insertEntry] at h
    split at h
    · simpa using h
    · split at h
      · rcases List.mem_cons.1 h with h | h
        · exact .inl h
        · exact .inr (List.mem_cons_of_mem _ h)
      · rcases List.mem_cons.1 h with h | h
        · exact .inr (h ▸ List.mem_cons_self)
        · exact (ih h).imp_right (List.mem_cons_of_mem _)

theorem sorted_insertEntry (name : String) (item : α) {l : List (String × α)}
    (h : l.Pairwise fun a b => a.1 < b.1) :
    (insertEntry name item l).Pairwise fun a b => a.1 < b.1 := by
  induction l with
  | nil => simp [insertEntry]
  | cons head tail ih =>
    obtain ⟨hhead, htail⟩ := List.pairwise_cons.1 h
    simp only [insertEntry]
    split
    case isTrue hlt =>
      refine List.pairwise_cons.2 ⟨fun e he => ?_, h⟩
      rcases List.mem_cons.1 he with rfl | he
      · exact hlt
      · exact String.lt_trans hlt (hhead e he)
    case isFalse hge =>
      split
      case isTrue heq =>
        exact List.pairwise_cons.2 ⟨fun e he => heq ▸ hhead e he, htail⟩
      case isFalse hne =>
        refine List.pairwise_cons.2 ⟨fun e he => ?_, ih htail⟩
        rcases mem_insertEntry he with rfl | he
        · exact string_lt_of_not_lt_of_ne hge hne
        · exact hhead e he

def empty : NameMap α := ⟨[], .nil⟩

instance : Inhabited (NameMap α) := ⟨empty⟩

def insert (m : NameMap α) (name : String) (item : α) : NameMap α :=
  ⟨insertEntry name item m.entries, sorted_insertEntry name item m.sorted⟩

def get? (m : NameMap α) (name : String) : Option α :=
  (m.entries.find? fun entry => entry.1 == name).map Prod.snd

def contains (m : NameMap α) (name : String) : Bool :=
  (m.get? name).isSome

def names (m : NameMap α) : List String :=
  m.entries.map Prod.fst

def items (m : NameMap α) : List α :=
  m.entries.map Prod.snd

def size (m : NameMap α) : Nat :=
  m.entries.length

def isEmpty (m : NameMap α) : Bool :=
  m.entries.isEmpty

def ofList (items : List (String × α)) : NameMap α :=
  items.foldl (fun m entry => m.insert entry.1 entry.2) empty

theorem find?_insertEntry (name other : String) (item : α) (l : List (String × α)) :
    (insertEntry name item l).find? (fun entry => entry.1 == other) =
      if name = other then some (name, item) else l.find? fun entry => entry.1 == other := by
  induction l with
  | nil => by_cases h : name = other <;> simp [insertEntry, h]
  | cons head tail ih =>
    simp only [insertEntry]
    split
    · by_cases h : name = other <;> simp [List.find?_cons, h]
    · split
      case isTrue heq => by_cases h : name = other <;> simp_all
      case isFalse hne => by_cases h : head.1 = other <;> simp_all

@[simp] theorem get?_insert (m : NameMap α) (name other : String) (item : α) :
    (m.insert name item).get? other = if name = other then some item else m.get? other := by
  simp only [get?, insert, find?_insertEntry]
  split <;> rfl

@[simp] theorem get?_empty (name : String) : (empty : NameMap α).get? name = none := rfl

theorem names_sorted (m : NameMap α) : m.names.Pairwise (· < ·) :=
  List.pairwise_map.2 m.sorted

end NameMap

end AbilityScript
