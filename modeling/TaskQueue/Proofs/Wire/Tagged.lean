import TaskQueue.Proofs.Json.Record
import TaskQueue.Wire.Command

/-!
# Documents of a tag and a content

Results:
1. `Doc.tagged?_eq_some_iff`: the tag and the content that a document carries.
2. `Doc.carries_ofTagged`: what is written for a tag and a content carries them.
-/

namespace TaskQueue.Json.Doc

variable {contentName tag : String} {content : Option Doc}

/-- The forms of a tag in an object: a string, or a choice without content. -/
inductive Tags : Doc → String → Prop
  | plain {s : Text} {tag : String} : s.Denotes tag.toList → Tags (.string s) tag
  | choice {s : Text} {tag : String} : s.Denotes tag.toList → Tags (.object [(s, .null)]) tag

/-- Where the content stands among the members before and behind the tag. One that stands before its
tag has to be sound throughout. -/
inductive Placed (name : String) (front back : List (String × Doc)) : Option Doc → Prop
  | absent : Lacks name front → Lacks name back → Placed name front back none
  | late {content : Doc} : Lacks name front → Single name content back →
      Placed name front back (some content)
  | early {content : Doc} : Single name content front → Lacks name back →
      content.Sound (maxDepth - 1) → Placed name front back (some content)

/-- The tag and the content of a document: the two in an array, or the members of an object that
have their names, among others. -/
inductive Carries (contentName : String) : Doc → String → Option Doc → Prop
  | pair {s : Text} {tag : String} (content : Doc) : s.Denotes tag.toList →
      Carries contentName (.array [.string s, content]) tag (some content)
  | object {members : List (Text × Doc)} {front back : List (String × Doc)} {t : Doc}
      {tag : String} {content : Option Doc} : Named members (front ++ ("type", t) :: back) →
      Lacks "type" front → Lacks "type" back → t.Tags tag → Placed contentName front back content →
      Carries contentName (.object members) tag content

theorem choice?_eq_some_iff {t : Doc} {levels : Nat} (entered : levels ≠ 0) :
    t.choice? levels = some tag ↔ t.Tags tag := by
  constructor
  · intro read
    rw [choice?.eq_def] at read
    split at read
    · exact .plain (Text.string?_eq_some_iff.mp read)
    · rw [if_neg entered] at read
      exact .choice (Text.string?_eq_some_iff.mp read)
    · cases read
  · rintro (denotes | denotes)
    · exact Text.string?_eq_some_iff.mpr denotes
    · exact (if_neg entered).trans (Text.string?_eq_some_iff.mpr denotes)

theorem afterMember_eq {name : String} {value : Doc} {front back : List (String × Doc)}
    (lacks : Lacks name front) : afterMember name (front ++ (name, value) :: back) = back := by
  induction front with
  | nil => exact if_pos rfl
  | cons m front ih =>
    obtain ⟨other, lacks⟩ := List.forall_mem_cons.mp lacks
    exact (if_neg other).trans (ih lacks)

/-- A content is placed where it is looked for: in all members, and in those behind the tag. -/
theorem placed_iff (other : contentName ≠ "type") {front back : List (String × Doc)} {t : Doc} :
    Placed contentName front back content ↔
      single? contentName (front ++ ("type", t) :: back) = some content ∧
        ∃ late, single? contentName back = some late ∧
          (late = none → ∀ d ∈ content, d.Sound (maxDepth - 1)) := by
  constructor
  · rintro (⟨before, after⟩ | ⟨before, after⟩ | ⟨before, after, sound⟩)
    · exact ⟨single?_eq_some_none_iff.mpr ((lacks_around other.symm).mpr ⟨before, after⟩),
        none, single?_eq_some_none_iff.mpr after, nofun⟩
    · exact ⟨single?_eq_some_some_iff.mpr ((single_around other.symm).mpr (.inl ⟨before, after⟩)),
        _, single?_eq_some_some_iff.mpr after, nofun⟩
    · refine ⟨single?_eq_some_some_iff.mpr ((single_around other.symm).mpr (.inr ⟨before, after⟩)),
        none, single?_eq_some_none_iff.mpr after, ?_⟩
      rintro - _ ⟨⟩
      exact sound
  · rintro ⟨whole, late, behind, sound⟩
    cases content with
    | none =>
      obtain ⟨before, after⟩ := (lacks_around other.symm).mp (single?_eq_some_none_iff.mp whole)
      exact .absent before after
    | some d =>
      obtain ⟨before, after⟩ | ⟨before, after⟩ :=
        (single_around other.symm).mp (single?_eq_some_some_iff.mp whole)
      · exact .late before after
      · rw [single?_eq_some_none_iff.mpr after] at behind
        exact .early before after (sound (Option.some.inj behind).symm d rfl)

/-- What is read from an object is what its members carry. -/
theorem carries_of_tagged?_object {members : List (Text × Doc)} (other : contentName ≠ "type")
    {early : Bool}
    (read : (Doc.object members).tagged? contentName maxDepth = some ⟨tag, content, early⟩) :
    (Doc.object members).Carries contentName tag content := by
  simp only [tagged?, Option.bind_eq_bind, Option.bind_eq_some_iff] at read
  obtain ⟨named, names, _, one, t, rfl, tag', tags, content', whole, late, behind, read⟩ := read
  obtain ⟨-, _, same, names⟩ := members?_eq_some_iff.mp names
  cases same
  obtain ⟨front, back, rfl, before, after⟩ := single?_eq_some_some_iff.mp one
  rw [afterMember_eq before] at behind
  have tags := (choice?_eq_some_iff (by decide)).mp tags
  cases content' with
  | none =>
    cases read
    exact .object names before after tags ((placed_iff other).mpr ⟨whole, late, behind, nofun⟩)
  | some d =>
    cases late with
    | none =>
      obtain ⟨value, kept, read⟩ := Option.bind_eq_some_iff.mp read
      cases read
      have sound : d.Sound (maxDepth - 1) :=
        isSome_keep?_iff.mp (Option.isSome_iff_exists.mpr ⟨value, kept⟩)
      refine .object names before after tags ((placed_iff other).mpr ⟨whole, none, behind, ?_⟩)
      rintro - _ ⟨⟩
      exact sound
    | some late =>
      cases read
      exact .object names before after tags ((placed_iff other).mpr ⟨whole, _, behind, nofun⟩)

theorem Carries.tagged?_object {members : List (Text × Doc)} {front back : List (String × Doc)}
    {t : Doc} (other : contentName ≠ "type") (names : Named members (front ++ ("type", t) :: back))
    (before : Lacks "type" front) (after : Lacks "type" back) (tags : t.Tags tag)
    (placed : Placed contentName front back content) :
    ∃ early, (Doc.object members).tagged? contentName maxDepth = some ⟨tag, content, early⟩ := by
  obtain ⟨whole, late, behind, sound⟩ := (placed_iff (t := t) other).mp placed
  have opened := members?_eq_some_iff.mpr ⟨(by decide : maxDepth ≠ 0), _, rfl, names⟩
  have one : single? "type" (front ++ ("type", t) :: back) = some (some t) :=
    single?_eq_some_some_iff.mpr ⟨front, back, rfl, before, after⟩
  have chosen := (choice?_eq_some_iff (by decide : maxDepth - 1 ≠ 0)).mpr tags
  simp only [tagged?, opened, one, chosen, whole, afterMember_eq before, behind,
    Option.bind_eq_bind, Option.bind_some]
  cases content with
  | none => exact ⟨_, rfl⟩
  | some d =>
    cases late with
    | none =>
      obtain ⟨value, kept⟩ := Option.isSome_iff_exists.mp (isSome_keep?_iff.mpr (sound rfl d rfl))
      refine ⟨true, ?_⟩
      simp [kept]
    | some late => exact ⟨false, rfl⟩

/-- The tag and the content that are read from a document are those that it carries. -/
theorem tagged?_eq_some_iff (other : contentName ≠ "type") {doc : Doc} :
    (∃ early, doc.tagged? contentName maxDepth = some ⟨tag, content, early⟩) ↔
      doc.Carries contentName tag content := by
  constructor
  · rintro ⟨early, read⟩
    cases doc with
    | object members => exact carries_of_tagged?_object other read
    | array items =>
      rw [tagged?.eq_def] at read
      split at read
      · next t d same =>
        cases same
        rw [if_neg (by decide)] at read
        obtain ⟨_, known, read⟩ := Option.bind_eq_some_iff.mp read
        cases read
        cases t with
        | string s => exact .pair d (Text.string?_eq_some_iff.mp known)
        | _ => cases known
      · cases read
    | _ => cases read
  · rintro (⟨d, denotes⟩ | ⟨names, before, after, tags, placed⟩)
    · refine ⟨false, ?_⟩
      have known := Text.string?_eq_some_iff.mpr denotes
      rw [tagged?, if_neg (by decide), string?, known]
      rfl
    · exact Carries.tagged?_object other names before after tags placed

/-- A document carries at most one tag and one content. -/
theorem Carries.unique (other : contentName ≠ "type") {doc : Doc} {tag' : String}
    {content' : Option Doc} (carries : doc.Carries contentName tag content)
    (also : doc.Carries contentName tag' content') : tag = tag' ∧ content = content' := by
  obtain ⟨_, read⟩ := (tagged?_eq_some_iff other).mpr carries
  obtain ⟨_, read'⟩ := (tagged?_eq_some_iff other).mpr also
  cases read.symm.trans read'
  exact ⟨rfl, rfl⟩

/-- What is written for a tag and a content carries them. -/
theorem carries_ofTagged (contentName tag : String) (content : Option Doc)
    (other : contentName ≠ "type") :
    (ofTagged contentName tag content).Carries contentName tag content := by
  have before : Lacks "type" [] := nofun
  have tags : Tags (.string (Text.ofString tag)) tag := .plain (Text.denotes_ofString tag)
  have name : Text.Denotes (Text.ofString "type") "type".toList := Text.denotes_ofString "type"
  cases content with
  | none =>
    have names : Named [(Text.ofString "type", .string (Text.ofString tag))]
        ([] ++ [("type", .string (Text.ofString tag))]) := .cons ⟨name, rfl⟩ .nil
    exact .object names before nofun tags (.absent nofun nofun)
  | some d =>
    have names : Named [(Text.ofString "type", .string (Text.ofString tag)),
          (Text.ofString contentName, d)]
        ([] ++ ("type", .string (Text.ofString tag)) :: [(contentName, d)]) :=
      .cons ⟨name, rfl⟩ (.cons ⟨Text.denotes_ofString contentName, rfl⟩ .nil)
    have single : Single contentName d [(contentName, d)] := ⟨[], [], rfl, nofun, nofun⟩
    exact .object names before (List.forall_mem_singleton.mpr other) tags (.late nofun single)

theorem writable_ofTagged (writable : ∀ d ∈ content, d.Writable) :
    (ofTagged contentName tag content).Writable := by
  refine writable_object (List.forall_mem_cons.mpr
    ⟨⟨Text.isPlain_ofString _, writable_string (Text.isPlain_ofString _)⟩, ?_⟩)
  cases content with
  | none => nofun
  | some d => exact List.forall_mem_singleton.mpr ⟨Text.isPlain_ofString _, writable d rfl⟩

end TaskQueue.Json.Doc
