/-
What is kept of a context.  Each of four keys that occurs in it, in either of its
spellings, is kept once: at the place where it came first, with the value that came
last.  These three facts leave only one result possible.  It is kept as it is when it
is filtered again, and members under other keys have no part in it.
-/
import ContactPrivacy.Audit.Context
import ContactPrivacy.Proofs.Assoc

namespace ContactPrivacy.Audit

/-- The keys that a context keeps. -/
inductive ContextKey where
  | contactId
  | conversationId
  | messageId
  | action
deriving DecidableEq, Repr

namespace ContextKey

def name : ContextKey → String
  | .contactId => "contact_id"
  | .conversationId => "conversation_id"
  | .messageId => "message_id"
  | .action => "action"

def camelName : ContextKey → String
  | .contactId => "contactId"
  | .conversationId => "conversationId"
  | .messageId => "messageId"
  | .action => "action"

/-- A text that stands for a key. -/
def Spelled (key : ContextKey) (text : String) : Prop := text = key.name ∨ text = key.camelName

instance (key : ContextKey) (text : String) : Decidable (key.Spelled text) :=
  inferInstanceAs (Decidable (text = key.name ∨ text = key.camelName))

/-- Whether a key occurs in a context, however it is spelled. -/
def OccursIn (key : ContextKey) (members : Members) : Prop :=
  ∃ member ∈ members, key.Spelled member.1

instance (key : ContextKey) (members : Members) : Decidable (key.OccursIn members) :=
  inferInstanceAs (Decidable (∃ member ∈ members, key.Spelled member.1))

/-- Where a key comes first in a context; behind all members if it does not come. -/
def firstPlace (key : ContextKey) (members : Members) : Nat :=
  members.findIdx fun member => decide (key.Spelled member.1)

def lastValue? (key : ContextKey) (members : Members) : Option Json :=
  (members.filter fun member => decide (key.Spelled member.1)).getLast?.map Prod.snd

theorem name_injective : Function.Injective name := by
  intro first second hname
  cases first <;> cases second <;> simp [name] at hname ⊢

theorem canonicalKey?_of_spelled {key : ContextKey} {text : String} (hkey : key.Spelled text) :
    canonicalKey? text = some key.name := by
  rcases hkey with rfl | rfl
  · cases key <;> decide
  · cases key <;> decide

/-- A text stands for one key at most. -/
theorem spelled_iff_eq {key : ContextKey} {text : String} (hkey : key.Spelled text)
    (other : ContextKey) : other.Spelled text ↔ other = key := by
  constructor
  · intro hother
    have hname := (canonicalKey?_of_spelled hother).symm.trans (canonicalKey?_of_spelled hkey)
    exact name_injective (Option.some.inj hname)
  · rintro rfl
    exact hkey

theorem exists_spelled_of_mem {spelling : String × String}
    (hspelling : spelling ∈ contextSpellings) : ∃ key : ContextKey, key.Spelled spelling.1 := by
  simp only [contextSpellings, List.mem_cons, List.not_mem_nil, or_false] at hspelling
  rcases hspelling with rfl | rfl | rfl | rfl | rfl | rfl | rfl
  · exact ⟨.contactId, Or.inl rfl⟩
  · exact ⟨.conversationId, Or.inl rfl⟩
  · exact ⟨.messageId, Or.inl rfl⟩
  · exact ⟨.action, Or.inl rfl⟩
  · exact ⟨.contactId, Or.inr rfl⟩
  · exact ⟨.conversationId, Or.inr rfl⟩
  · exact ⟨.messageId, Or.inr rfl⟩

/-- What stands for no key is no spelling that is known. -/
theorem canonicalKey?_of_not_spelled {text : String}
    (hother : ¬ ∃ key : ContextKey, key.Spelled text) : canonicalKey? text = none := by
  rw [canonicalKey?, Option.map_eq_none_iff, List.find?_eq_none]
  intro spelling hspelling htext
  obtain ⟨key, hkey⟩ := exists_spelled_of_mem hspelling
  exact hother ⟨key, beq_iff_eq.mp htext ▸ hkey⟩

theorem occursIn_concat (key : ContextKey) (members : Members) (member : String × Json) :
    key.OccursIn (members ++ [member]) ↔ key.OccursIn members ∨ key.Spelled member.1 := by
  simp [OccursIn, or_and_right, exists_or]

theorem firstPlace_lt_iff (key : ContextKey) (members : Members) :
    key.firstPlace members < members.length ↔ key.OccursIn members := by
  rw [firstPlace, List.findIdx_lt_length]
  simp only [decide_eq_true_eq, OccursIn]

theorem firstPlace_append (key : ContextKey) (members later : Members) :
    key.firstPlace (members ++ later) =
      if key.OccursIn members then key.firstPlace members
      else key.firstPlace later + members.length := by
  rw [firstPlace, List.findIdx_append]
  exact if_congr (key.firstPlace_lt_iff members) rfl rfl

theorem lastValue?_concat (key : ContextKey) (members : Members) (member : String × Json) :
    key.lastValue? (members ++ [member]) =
      if key.Spelled member.1 then some member.2 else key.lastValue? members := by
  by_cases hkey : key.Spelled member.1
  · simp [lastValue?, hkey]
  · simp [lastValue?, hkey]

end ContextKey

open ContextKey

/-- The first of two keys comes in a context before the second one does. -/
def Precedes (members : Members) (earlier later : String) : Prop :=
  ∃ first second : ContextKey, first.name = earlier ∧ second.name = later ∧
    first.firstPlace members < second.firstPlace members

/-- What is kept of a context: the keys that occur in it and no others, each with the
value that came last, in the order in which they came first. -/
structure KeptOf (members kept : Members) : Prop where
  keys : ∀ name, name ∈ Assoc.keys kept ↔
    ∃ key : ContextKey, key.name = name ∧ key.OccursIn members
  values : ∀ key : ContextKey, Assoc.get? key.name kept = key.lastValue? members
  order : (Assoc.keys kept).Pairwise (Precedes members)

/-- Contexts that are the same but for members that are under none of the keys. -/
inductive SameListed : Members → Members → Prop
  | nil : SameListed [] []
  | cons (member : String × Json) {first second : Members} (hrest : SameListed first second) :
      SameListed (member :: first) (member :: second)
  | insert {member : String × Json} (hother : ¬ ∃ key : ContextKey, key.Spelled member.1)
      {first second : Members} (hrest : SameListed first second) :
      SameListed first (member :: second)
  | remove {member : String × Json} (hother : ¬ ∃ key : ContextKey, key.Spelled member.1)
      {first second : Members} (hrest : SameListed first second) :
      SameListed (member :: first) second

/-- A key does not precede itself. -/
theorem Precedes.irrefl {members : Members} {name : String}
    (hprecedes : Precedes members name name) : False := by
  obtain ⟨first, second, hfirst, hsecond, hlt⟩ := hprecedes
  have hsame : first = second := name_injective (hfirst.trans hsecond.symm)
  rw [hsame] at hlt
  exact Nat.lt_irrefl _ hlt

theorem Precedes.trans {members : Members} {first second third : String}
    (hfirst : Precedes members first second) (hsecond : Precedes members second third) :
    Precedes members first third := by
  obtain ⟨a, b, ha, hb, hab⟩ := hfirst
  obtain ⟨b', c, hb', hc, hbc⟩ := hsecond
  have hsame : b = b' := name_injective (hb.trans hb'.symm)
  exact ⟨a, c, ha, hc, Nat.lt_trans hab (hsame ▸ hbc)⟩

/-- Members that are added behind do not change what comes first. -/
theorem Precedes.append {members : Members} {earlier later : String}
    (hprecedes : Precedes members earlier later) (added : Members) :
    Precedes (members ++ added) earlier later := by
  obtain ⟨first, second, hfirst, hsecond, hlt⟩ := hprecedes
  have hlast : second.firstPlace members ≤ members.length := List.findIdx_le_length
  have hoccurs : first.OccursIn members :=
    (first.firstPlace_lt_iff members).mp (Nat.lt_of_lt_of_le hlt hlast)
  refine ⟨first, second, hfirst, hsecond, ?_⟩
  rw [firstPlace_append, if_pos hoccurs, firstPlace_append]
  split
  · exact hlt
  · omega

theorem precedes_concat {members : Members} {first second : ContextKey}
    (hfirst : first.OccursIn members) (hsecond : ¬ second.OccursIn members)
    (member : String × Json) : Precedes (members ++ [member]) first.name second.name := by
  have hplace := (first.firstPlace_lt_iff members).mpr hfirst
  refine ⟨first, second, rfl, rfl, ?_⟩
  rw [firstPlace_append, if_pos hfirst, firstPlace_append, if_neg hsecond]
  omega

theorem keepMember_of_spelled {key : ContextKey} {member : String × Json}
    (hkey : key.Spelled member.1) (kept : Members) :
    keepMember kept member = Assoc.put key.name member.2 kept := by
  rw [keepMember, canonicalKey?_of_spelled hkey]

theorem keepMember_of_not_spelled {member : String × Json}
    (hother : ¬ ∃ key : ContextKey, key.Spelled member.1) (kept : Members) :
    keepMember kept member = kept := by
  rw [keepMember, canonicalKey?_of_not_spelled hother]

namespace KeptOf

variable {members kept : Members}

theorem nodup (hkept : KeptOf members kept) : (Assoc.keys kept).Nodup := by
  refine hkept.order.imp ?_
  rintro name other hprecedes rfl
  exact hprecedes.irrefl

theorem name_mem_iff (hkept : KeptOf members kept) (key : ContextKey) :
    key.name ∈ Assoc.keys kept ↔ key.OccursIn members := by
  rw [hkept.keys]
  constructor
  · rintro ⟨other, hname, hoccurs⟩
    exact name_injective hname ▸ hoccurs
  · intro hoccurs
    exact ⟨key, rfl, hoccurs⟩

/-- A member under one of the keys: from then on this key has its value. -/
theorem put (hkept : KeptOf members kept) {key : ContextKey} {member : String × Json}
    (hkey : key.Spelled member.1) :
    KeptOf (members ++ [member]) (Assoc.put key.name member.2 kept) := by
  have horder : (Assoc.keys kept).Pairwise (Precedes (members ++ [member])) :=
    hkept.order.imp fun hprecedes => hprecedes.append [member]
  constructor
  · intro name
    simp only [occursIn_concat, spelled_iff_eq hkey, and_or_left, exists_or, ← hkept.keys,
      exists_eq_right, Assoc.keys_put]
    split
    · next hknown =>
        constructor
        · exact Or.inl
        · rintro (hname | rfl)
          · exact hname
          · exact hknown
    · simp [eq_comm]
  · intro other
    simp only [lastValue?_concat, spelled_iff_eq hkey]
    split
    · next hsame => rw [hsame, Assoc.get?_put_self]
    · next hother =>
        have hne : other.name ≠ key.name := fun hname => hother (name_injective hname)
        rw [Assoc.get?_put_of_ne hne, hkept.values]
  · rw [Assoc.keys_put]
    split
    · exact horder
    · next hnew =>
        rw [hkept.name_mem_iff] at hnew
        rw [List.pairwise_append]
        refine ⟨horder, List.pairwise_singleton _ _, ?_⟩
        intro name hname last hlast
        obtain ⟨first, rfl, hfirst⟩ := (hkept.keys name).mp hname
        rw [List.mem_singleton.mp hlast]
        exact precedes_concat hfirst hnew member

/-- A member under none of the keys leaves things as they are. -/
theorem skip (hkept : KeptOf members kept) {member : String × Json}
    (hother : ¬ ∃ key : ContextKey, key.Spelled member.1) : KeptOf (members ++ [member]) kept := by
  have hspelled : ∀ key : ContextKey, ¬ key.Spelled member.1 := not_exists.mp hother
  constructor
  · intro name
    simp only [occursIn_concat, hspelled, or_false, hkept.keys]
  · intro key
    rw [lastValue?_concat, if_neg (hspelled key), hkept.values]
  · exact hkept.order.imp fun hprecedes => hprecedes.append [member]

/-- One member more, and what is kept then. -/
theorem concat (hkept : KeptOf members kept) (member : String × Json) :
    KeptOf (members ++ [member]) (keepMember kept member) := by
  by_cases hlisted : ∃ key : ContextKey, key.Spelled member.1
  · obtain ⟨key, hkey⟩ := hlisted
    rw [keepMember_of_spelled hkey]
    exact hkept.put hkey
  · rw [keepMember_of_not_spelled hlisted]
    exact hkept.skip hlisted

/-- Only one result is what is kept of a context. -/
theorem unique {other : Members} (hkept : KeptOf members kept) (hother : KeptOf members other) :
    other = kept := by
  have hperm : (Assoc.keys other).Perm (Assoc.keys kept) := by
    rw [List.perm_ext_iff_of_nodup hother.nodup hkept.nodup]
    intro name
    rw [hother.keys, hkept.keys]
  have hkeys : Assoc.keys other = Assoc.keys kept := by
    refine hperm.eq_of_pairwise ?_ hother.order hkept.order
    intro first second _ _ hfirst hsecond
    exact (hfirst.trans hsecond).irrefl.elim
  refine Assoc.eq_of_get?_eq hkeys hother.nodup ?_
  intro name hname
  obtain ⟨key, rfl, -⟩ := (hother.keys name).mp hname
  rw [hother.values, hkept.values]

end KeptOf

theorem filterMembers_concat (members : Members) (member : String × Json) :
    filterMembers (members ++ [member]) = keepMember (filterMembers members) member := by
  rw [filterMembers, List.foldl_append]
  rfl

theorem keptOf_filterMembers (members : Members) : KeptOf members (filterMembers members) := by
  induction members using List.reverseRecOn with
  | nil =>
      constructor
      · intro name
        simp [filterMembers, Assoc.keys, OccursIn]
      · intro key
        rfl
      · exact List.Pairwise.nil
  | append_singleton members member ih =>
      rw [filterMembers_concat]
      exact ih.concat member

/-- Of a context that has nothing but keys as they are kept, all is kept. -/
theorem filterMembers_eq_ofPairs {members : Members}
    (hnames : ∀ member ∈ members, ∃ key : ContextKey, key.name = member.1) :
    filterMembers members = Assoc.ofPairs members := by
  refine List.foldl_ext _ _ [] ?_
  intro kept member hmember
  obtain ⟨key, hname⟩ := hnames member hmember
  rw [keepMember_of_spelled (Or.inl hname.symm), hname]

theorem filterMembers_filterMembers (members : Members) :
    filterMembers (filterMembers members) = filterMembers members := by
  have hkept := keptOf_filterMembers members
  rw [filterMembers_eq_ofPairs, Assoc.ofPairs_of_nodup hkept.nodup]
  intro member hmember
  obtain ⟨key, hname, -⟩ := (hkept.keys member.1).mp (List.mem_map_of_mem hmember)
  exact ⟨key, hname⟩

theorem SameListed.foldl_keepMember {first second : Members} (hsame : SameListed first second)
    (kept : Members) : first.foldl keepMember kept = second.foldl keepMember kept := by
  induction hsame generalizing kept with
  | nil => rfl
  | cons member _ ih => exact ih (keepMember kept member)
  | insert hother _ ih =>
      rw [List.foldl_cons, keepMember_of_not_spelled hother]
      exact ih kept
  | remove hother _ ih =>
      rw [List.foldl_cons, keepMember_of_not_spelled hother]
      exact ih kept

/-- Filtering a context keeps the listed keys with their last values.  Of every context
it keeps the keys that occur in it, in any spelling, each with the value of the last
member under it, in the order in which the keys first came; nothing else meets this.
The result filtered again is the same, and so is the result for every context that has
other members under none of the keys, or lacks some. -/
theorem filterContext_last_spelling_wins (members : Members) :
    ∃ kept, filterContext (.object members) = .ok kept ∧
      (∀ result, KeptOf members result ↔ result = kept) ∧
      filterContext (.object kept) = .ok kept ∧
      ∀ other, SameListed members other → filterContext (.object other) = .ok kept := by
  have hkept := keptOf_filterMembers members
  refine ⟨filterMembers members, rfl, ?_, ?_, ?_⟩
  · intro result
    constructor
    · exact hkept.unique
    · rintro rfl
      exact hkept
  · exact congrArg Except.ok (filterMembers_filterMembers members)
  · intro other hsame
    exact congrArg Except.ok (hsame.foldl_keepMember []).symm

/-- A key that comes in both spellings has its place from the first and its value from
the second, also when members under other keys are added around them. -/
theorem filterContext_last_spelling_wins_of_both_spellings :
    let given : Members :=
      [("contactId", .int 1), ("action", .string "copy"), ("contact_id", .int 2)]
    let longer : Members :=
      [("email", .string "ada@example.com"), ("contactId", .int 1), ("action", .string "copy"),
        ("Action", .null), ("contact_id", .int 2)]
    let kept : Members := [("contact_id", .int 2), ("action", .string "copy")]
    SameListed given longer ∧ KeptOf given kept ∧ filterContext (.object given) = .ok kept ∧
      filterContext (.object kept) = .ok kept ∧ filterContext (.object longer) = .ok kept := by
  intro given longer kept
  have hother : ∀ text ∈ ["email", "Action"], ¬ ∃ key : ContextKey, key.Spelled text := by
    intro text htext
    rintro ⟨key, hkey⟩
    simp only [List.mem_cons, List.not_mem_nil, or_false] at htext
    rcases htext with rfl | rfl <;> cases key <;> exact absurd hkey (by decide)
  have hsame : SameListed given longer :=
    .insert (hother "email" (by decide)) (.cons _ (.cons _
      (.insert (hother "Action" (by decide)) (.cons _ .nil))))
  obtain ⟨result, hresult, hkept, hagain, hlonger⟩ := filterContext_last_spelling_wins given
  have hgiven : filterContext (.object given) = .ok kept := by decide
  have heq : kept = result := Except.ok.inj (hgiven.symm.trans hresult)
  subst heq
  exact ⟨hsame, (hkept kept).mpr rfl, hgiven, hagain, hlonger longer hsame⟩

end ContactPrivacy.Audit
