import Moderation.Proofs.Log.Chat
import Moderation.Proofs.Log.Items
/-!
Lines about two players. The player who acts, the other one and the properties are read as they were
written: after any later place that could end the first tag stands no verb.
-/
namespace Moderation.Log
open Text Time

def killText (a v : Tag) (weapon : List Char) (items : List (String × String)) : List Char :=
  a.text ++ (" killed ".toList ++ (v.text ++ (" with \"".toList ++ (weapon ++
    '"' :: itemsText items))))

def triggerText (a : Tag) (what : List Char) (v : Tag) (items : List (String × String)) :
    List Char :=
  a.text ++ (" triggered ".toList ++ ('"' :: (what ++ '"' :: (" against ".toList ++
    (v.text ++ itemsText items)))))

/-- What can follow a tag at the start of a line. -/
def verbs : List String :=
  [" say ", " say_team ", " connected, address \"", " killed ", " triggered "]

def Verbless (s : List Char) : Prop := ∀ verb ∈ verbs, dropPrefix? verb.toList s = none

theorem verbless_cons {d : Char} (hd : d ≠ ' ') (s : List Char) : Verbless (d :: s) := by
  intro verb hverb
  simp only [verbs, List.mem_cons, List.not_mem_nil, or_false] at hverb
  rcases hverb with rfl | rfl | rfl | rfl | rfl <;> simp [dropPrefix?, Ne.symm hd]

theorem verbless_space {d : Char} (hd : d ∉ ['s', 'c', 'k', 't']) (s : List Char) :
    Verbless (' ' :: d :: s) := by
  intro verb hverb
  simp only [List.mem_cons, List.not_mem_nil, or_false, not_or] at hd
  simp only [verbs, List.mem_cons, List.not_mem_nil, or_false] at hverb
  rcases hverb with rfl | rfl | rfl | rfl | rfl <;>
    simp [dropPrefix?, Ne.symm hd.1, Ne.symm hd.2.1, Ne.symm hd.2.2.1, Ne.symm hd.2.2.2]

theorem verbless_itemsText (items : List (String × String)) : Verbless (itemsText items) := by
  cases items with
  | nil =>
    intro verb hverb
    simp only [verbs, List.mem_cons, List.not_mem_nil, or_false] at hverb
    rcases hverb with rfl | rfl | rfl | rfl | rfl <;> rfl
  | cons i items => exact verbless_space (by decide) _

/-- Behind a quote in an item there is its closing bracket. -/
theorem verbless_of_follows_itemsText {items : List (String × String)}
    (h : ∀ i ∈ items, PlainItem i) {x r : List Char} (hx : '"' ∉ x)
    (hr : Follows (x ++ itemsText items) r) : Verbless r := by
  induction items generalizing x with
  | nil =>
    rw [itemsText, List.flatMap_nil, List.append_nil] at hr
    exact absurd hr (not_follows hx)
  | cons i items ih =>
    have hi := h i (by simp)
    have hkey := hi.not_mem_key (c := '"') (by decide)
    have htext : x ++ itemsText (i :: items) = (x ++ ' ' :: '(' :: i.1.toList ++ [' ']) ++
        '"' :: (i.2.toList ++ '"' :: ([')'] ++ itemsText items)) := by
      simp [itemsText, itemText]
    rw [htext] at hr
    have hvalue := follows_of_append_quote (by simp [hx, hkey]) (by simp [List.getLast?_cons]) hr
    rcases follows_append_quote hi.value hvalue with rfl | hrest
    · exact verbless_cons (by decide) _
    · exact ih (fun j hj => h j (List.mem_cons_of_mem i hj)) (by decide) hrest

/-- Behind the tag of the other player. -/
theorem verbless_of_follows_tag {t : Tag} (ht : t.Plain) {x s r : List Char} (hx : '"' ∉ x)
    (hend : x.getLast? ≠ some '>') (hs : Verbless s) (hrest : ∀ r, Follows s r → Verbless r)
    (hr : Follows (x ++ (t.text ++ s)) r) : Verbless r := by
  have htext : x ++ (t.text ++ s) = x ++ '"' :: (t.name ++ t.fieldsText ++ '"' :: s) := by
    simp [t.text_eq]
  rw [htext] at hr
  rcases follows_append_quote ht.not_mem (follows_of_append_quote hx hend hr) with rfl | hlater
  · exact hs
  · exact hrest r hlater

theorem verbless_of_follows_kill {v : Tag} (hv : v.Plain) {w : List Char} (hw : '"' ∉ w)
    {items : List (String × String)} (h : ∀ i ∈ items, PlainItem i) {r : List Char}
    (hr : Follows (" killed ".toList ++ (v.text ++ (" with \"".toList ++ (w ++
      '"' :: itemsText items)))) r) : Verbless r := by
  refine verbless_of_follows_tag hv (by decide) (by decide) (verbless_space (by decide) _) ?_ hr
  intro r hr
  have hweapon := follows_of_append_quote (p := " with ".toList) (by decide) (by decide) hr
  rcases follows_append_quote hw hweapon with rfl | hrest
  · exact verbless_itemsText items
  · exact verbless_of_follows_itemsText h (x := []) (by simp) hrest

theorem verbless_of_follows_trigger {v : Tag} (hv : v.Plain) {what : List Char} (hwhat : '"' ∉ what)
    {items : List (String × String)} (h : ∀ i ∈ items, PlainItem i) {r : List Char}
    (hr : Follows (" triggered ".toList ++ ('"' :: (what ++ '"' :: (" against ".toList ++
      (v.text ++ itemsText items))))) r) : Verbless r := by
  rcases follows_append_quote hwhat (follows_of_append_quote (by decide) (by decide) hr) with
    rfl | hagainst
  · exact verbless_space (by decide) _
  · exact verbless_of_follows_tag hv (by decide) (by decide) (verbless_itemsText items)
      (fun r => verbless_of_follows_itemsText h (x := []) (by simp)) hagainst

namespace Statement
variable {α : Type} {t a v : Tag} {r w : List Char} {items : List (String × String)}

/-- A form that asks for a verb is decided behind the tag. -/
theorem tagged?_verb (ht : t.Plain) (hr : ∀ s, Follows r s → Verbless s) (verb : String)
    (hverb : verb ∈ verbs) (next : Tag → List Char → Option α) :
    tagged? (t.text ++ r) (fun t s => dropPrefix? verb.toList s >>= next t) =
      (dropPrefix? verb.toList r).bind (next t) := by
  refine tagged?_of_follows ht fun t' s hs => ?_
  rw [hr s hs verb hverb]
  rfl

theorem said?_eq_none (ht : t.Plain) (hr : ∀ s, Follows r s → Verbless s)
    (hsay : dropPrefix? " say ".toList r = none)
    (hteam : dropPrefix? " say_team ".toList r = none) : said? (t.text ++ r) = none := by
  refine (tagged?_of_follows ht ?_).trans ?_
  · intro t' s hs
    rw [hr s hs " say " (by decide), hr s hs " say_team " (by decide)]
    rfl
  · rw [hsay, hteam]
    rfl

theorem joined?_eq_none (ht : t.Plain) (hr : ∀ s, Follows r s → Verbless s)
    (hverb : dropPrefix? " connected, address \"".toList r = none) :
    joined? (t.text ++ r) = none := by
  refine (tagged?_verb ht hr " connected, address \"" (by decide) _).trans ?_
  rw [hverb]
  rfl

theorem restOfLine?_itemsText (hitems : ∀ i ∈ items, PlainItem i) :
    restOfLine? (itemsText items) = some (itemsText items) :=
  if_pos (isOneLine_iff.2 (one_line_itemsText hitems))

theorem quoted?_append (hw : '"' ∉ w) (r : List Char) : quoted? (w ++ '"' :: r) = some (w, r) :=
  upTo?_eq_some_iff.2 ⟨hw, rfl⟩

theorem killed?_killText (ha : a.Plain) (hv : v.Plain) (hw : '"' ∉ w)
    (hitems : ∀ i ∈ items, PlainItem i) :
    killed? (killText a v w items) = some (.killed a v w (itemsText items)) := by
  have hfollows := fun s => verbless_of_follows_kill hv hw hitems (r := s)
  refine (tagged?_verb ha hfollows " killed " (by decide) _).trans ?_
  rw [dropPrefix?_append, Option.bind_some]
  refine tagged?_of_some hv ?_
  simp only [dropPrefix?_append, Option.bind_eq_bind, Option.bind_some, quoted?_append hw,
    restOfLine?_itemsText hitems]
  rfl

theorem ofBody_killText (ha : a.Plain) (hv : v.Plain) (hw : '"' ∉ w)
    (hitems : ∀ i ∈ items, PlainItem i) :
    ofBody (killText a v w items) = .killed a v w (itemsText items) := by
  have hsaid : said? (killText a v w items) = none :=
    said?_eq_none ha (fun s => verbless_of_follows_kill hv hw hitems) rfl rfl
  have hjoined : joined? (killText a v w items) = none :=
    joined?_eq_none ha (fun s => verbless_of_follows_kill hv hw hitems) rfl
  rw [ofBody, hsaid, hjoined, killed?_killText ha hv hw hitems]
  rfl

theorem word?_quoted (hw : '"' ∉ w) (hne : w ≠ []) (r : List Char) :
    word? ('"' :: (w ++ '"' :: r)) = some (w, r) := by
  simp [word?, dropPrefix?, quoted?_append hw, hne]

theorem killed?_triggerText (ha : a.Plain) (hv : v.Plain) (hw : '"' ∉ w)
    (hitems : ∀ i ∈ items, PlainItem i) : killed? (triggerText a w v items) = none := by
  have hfollows := fun s => verbless_of_follows_trigger hv hw hitems (r := s)
  exact (tagged?_verb ha hfollows " killed " (by decide) _).trans rfl

theorem triggeredAgainst?_triggerText (ha : a.Plain) (hv : v.Plain) (hw : '"' ∉ w) (hne : w ≠ [])
    (hitems : ∀ i ∈ items, PlainItem i) :
    triggeredAgainst? (triggerText a w v items) =
      some (.triggeredAgainst a w v (itemsText items)) := by
  have hfollows := fun s => verbless_of_follows_trigger hv hw hitems (r := s)
  refine (tagged?_verb ha hfollows " triggered " (by decide) _).trans ?_
  simp only [dropPrefix?_append, Option.bind_eq_bind, Option.bind_some, word?_quoted hw hne]
  refine tagged?_of_some hv ?_
  rw [restOfLine?_itemsText hitems]
  rfl

theorem ofBody_triggerText (ha : a.Plain) (hv : v.Plain) (hw : '"' ∉ w) (hne : w ≠ [])
    (hitems : ∀ i ∈ items, PlainItem i) :
    ofBody (triggerText a w v items) = .triggeredAgainst a w v (itemsText items) := by
  have hsaid : said? (triggerText a w v items) = none :=
    said?_eq_none ha (fun s => verbless_of_follows_trigger hv hw hitems) rfl rfl
  have hjoined : joined? (triggerText a w v items) = none :=
    joined?_eq_none ha (fun s => verbless_of_follows_trigger hv hw hitems) rfl
  rw [ofBody, hsaid, hjoined, killed?_triggerText ha hv hw hitems,
    triggeredAgainst?_triggerText ha hv hw hne hitems]
  rfl

end Statement
section
variable {a v : Tag} {w : List Char} {items : List (String × String)}

/-- Such a line ends with a quote or a bracket. -/
theorem exists_getLast? (s : List Char) (items : List (String × String)) :
    ∃ d, (s ++ '"' :: itemsText items).getLast? = some d ∧ d ≠ '\r' := by
  rcases List.eq_nil_or_concat items with rfl | ⟨items, i, rfl⟩
  · exact ⟨'"', by simp [itemsText], by decide⟩
  · have hends : s ++ '"' :: itemsText (items ++ [i]) = (s ++ '"' :: itemsText items ++
        ' ' :: '(' :: i.1.toList ++ ' ' :: '"' :: i.2.toList ++ ['"']) ++ [')'] := by
      simp [itemsText, itemText]
    rw [List.concat_eq_append, hends]
    exact ⟨')', List.getLast?_concat, by decide⟩

theorem one_line_killText (ha : a.Plain) (hv : v.Plain) (hw : '\n' ∉ w)
    (hitems : ∀ i ∈ items, PlainItem i) : Statement.isOneLine (killText a v w items) = true := by
  have hrest := one_line_itemsText hitems
  refine Statement.isOneLine_iff.2 ?_
  simp [killText, ha.one_line, hv.one_line, hw, hrest]

theorem one_line_triggerText (ha : a.Plain) (hv : v.Plain) (hw : '\n' ∉ w)
    (hitems : ∀ i ∈ items, PlainItem i) :
    Statement.isOneLine (triggerText a w v items) = true := by
  have hrest := one_line_itemsText hitems
  refine Statement.isOneLine_iff.2 ?_
  simp [triggerText, ha.one_line, hv.one_line, hw, hrest]

theorem classify_killText (now : Stamp) (origin : Server) (h : Head) (ha : a.Plain) (hv : v.Plain)
    (hida : a.InRange) (hidv : v.InRange) (hw : '"' ∉ w) (hline : '\n' ∉ w)
    (hitems : ∀ i ∈ items, PlainItem i) :
    classify now origin (h.line (killText a v w items)) =
      .ok ⟨⟨.kill, origin, a.owner, h.stamp, .kill v.owner (String.ofList w),
        attributesFrom items⟩, none⟩ := by
  have hread : Content.ofStatement (killText a v w items) (.ofBody (killText a v w items)) =
      .ok (.ok ⟨.kill, a.owner, .kill v.owner (String.ofList w), attributesFrom items⟩) := by
    rw [Statement.ofBody_killText ha hv hw hitems, Content.ofStatement,
      Tag.player_of_inRange hida, Tag.player_of_inRange hidv,
      attributesOf_itemsText fun i hi => (hitems i hi).toReadableItem]
    rfl
  obtain ⟨d, hd, hend⟩ := exists_getLast?
    (a.text ++ (" killed ".toList ++ (v.text ++ (" with \"".toList ++ w)))) items
  exact classify_line now origin h (c := '"') (d := d) (one_line_killText ha hv hline hitems)
    (by simp [killText, a.text_eq]) (by decide) (by simpa [killText] using hd) hend hread

theorem classify_triggerText (now : Stamp) (origin : Server) (h : Head) (ha : a.Plain)
    (hv : v.Plain) (hida : a.InRange) (hidv : v.InRange) (hw : '"' ∉ w) (hline : '\n' ∉ w)
    (hne : w ≠ []) (hitems : ∀ i ∈ items, PlainItem i) :
    classify now origin (h.line (triggerText a w v items)) =
      .ok (.of origin h.stamp (Content.ofTriggerAgainst (String.ofList w) a.owner v.owner
        (attributesFrom items))) := by
  have hread : Content.ofStatement (triggerText a w v items) (.ofBody (triggerText a w v items)) =
      .ok (Content.ofTriggerAgainst (String.ofList w) a.owner v.owner (attributesFrom items)) := by
    rw [Statement.ofBody_triggerText ha hv hw hne hitems, Content.ofStatement,
      Tag.player_of_inRange hida, Tag.player_of_inRange hidv,
      attributesOf_itemsText fun i hi => (hitems i hi).toReadableItem]
    rfl
  obtain ⟨d, hd, hend⟩ := exists_getLast? (a.text ++ (" triggered ".toList ++ ('"' :: (w ++
    '"' :: (" against ".toList ++ '"' :: (v.name ++ v.fieldsText)))))) items
  exact classify_line now origin h (c := '"') (d := d) (one_line_triggerText ha hv hline hitems)
    (by simp [triggerText, a.text_eq]) (by decide) (by simpa [triggerText, v.text_eq] using hd)
    hend hread

/-- Lines about two players are read back as they were written. -/
theorem classify_encounter (now : Stamp) (origin : Server) (h : Head) (ha : a.Plain) (hv : v.Plain)
    (hida : a.InRange) (hidv : v.InRange) (hitems : ∀ i ∈ items, PlainItem i) :
    let as := attributesFrom items
    let event (kind : EventKind) (payload : Payload) : Classified :=
      ⟨⟨kind, origin, a.owner, h.stamp, payload, as⟩, none⟩
    let trigger (what : String) := classify now origin (h.line (triggerText a what.toList v items))
    (∀ weapon : List Char, '"' ∉ weapon → '\n' ∉ weapon →
      classify now origin (h.line (killText a v weapon items)) =
        .ok (event .kill (.kill v.owner (String.ofList weapon)))) ∧
    (trigger "damage" = .ok (match lastInteger? items "damage" with
      | some n => event .damage (.damage v.owner n (as.text? "weapon"))
      | none => .unknown origin h.stamp (.integer "damage"))) ∧
    (trigger "healed" = .ok (match lastInteger? items "healing" with
      | some n => event .heal (.heal v.owner n)
      | none => .unknown origin h.stamp (.integer "healing"))) ∧
    trigger "medic_death" = .ok (event .medicDeath (.medicDeath v.owner
      (match lastInteger? items "ubercharge" with
        | some n => n ≠ 0
        | none => false))) := by
  intro as event trigger
  have hread : ∀ what : String, '"' ∉ what.toList → '\n' ∉ what.toList → what.toList ≠ [] →
      trigger what = .ok (.of origin h.stamp
        (Content.ofTriggerAgainst what a.owner v.owner as)) := by
    intro what hquote hline hne
    have hclassify := classify_triggerText now origin h ha hv hida hidv hquote hline hne hitems
    rwa [String.ofList_toList] at hclassify
  refine ⟨fun weapon hquote hline => ?_, ?_, ?_, ?_⟩
  · exact classify_killText now origin h ha hv hida hidv hquote hline hitems
  · rw [hread "damage" (by decide) (by decide) (by decide)]
    simp only [Content.ofTriggerAgainst, Content.amount, as, integer?_attributesFrom]
    cases lastInteger? items "damage" <;> rfl
  · rw [hread "healed" (by decide) (by decide) (by decide)]
    simp only [Content.ofTriggerAgainst, Content.amount, as, integer?_attributesFrom]
    cases lastInteger? items "healing" <;> rfl
  · rw [hread "medic_death" (by decide) (by decide) (by decide)]
    simp only [Content.ofTriggerAgainst, as, bool?_attributesFrom]
    cases lastInteger? items "ubercharge" <;> rfl

end

/-- A bot whose name is like the middle of a line, and items of which the last ones count. -/
def botTag : Tag := ⟨"b> killed <".toList, ['3'], "BOT".toList, "Red".toList⟩

def sampleItems : List (String × String) :=
  [("damage", "12"), ("damage", "-7"), ("weapon", "<w>"), ("healing", "much")]

theorem classify_encounter_imitation :
    sampleTag.Plain ∧ botTag.Plain ∧ sampleTag.InRange ∧ botTag.InRange ∧
    (∀ i ∈ sampleItems, PlainItem i) ∧
    classify ⟨0, 0⟩ ⟨1, "s"⟩
        (sampleHead.line (killText sampleTag botTag "gun".toList sampleItems)) =
      .ok ⟨⟨.kill, ⟨1, "s"⟩, some sampleTag.owner, sampleHead.stamp,
        .kill ⟨.none, "b> killed <", .red, none⟩ "gun", attributesFrom sampleItems⟩, none⟩ ∧
    classify ⟨0, 0⟩ ⟨1, "s"⟩
        (sampleHead.line (triggerText sampleTag "damage".toList botTag sampleItems)) =
      .ok ⟨⟨.damage, ⟨1, "s"⟩, some sampleTag.owner, sampleHead.stamp,
        .damage (some ⟨.none, "b> killed <", .red, none⟩) (-7) (some "<w>"),
        attributesFrom sampleItems⟩, none⟩ ∧
    classify ⟨0, 0⟩ ⟨1, "s"⟩
        (sampleHead.line (triggerText sampleTag "healed".toList botTag sampleItems)) =
      .ok (.unknown ⟨1, "s"⟩ sampleHead.stamp (.integer "healing")) := by
  have hbot : botTag.Plain :=
    ⟨⟨by decide, List.all_eq_true.1 (by decide), by decide, by decide⟩, by decide, by decide,
      by decide, by decide, by decide⟩
  have hidbot : botTag.InRange := by
    intro n hn
    have hnone : SteamId.account? botTag.steam = none := by decide
    rw [hnone] at hn
    cases hn
  have hitems : ∀ i ∈ sampleItems, PlainItem i := by
    simp only [sampleItems, List.forall_mem_cons]
    refine ⟨?_, ?_, ?_, ?_, nofun⟩ <;>
      exact ⟨⟨by decide, List.all_eq_true.1 (by decide), by decide⟩, by decide⟩
  have howner : botTag.owner = ⟨.none, "b> killed <", .red, none⟩ := by decide
  have hdamage : lastInteger? sampleItems "damage" = some (-7) := by decide
  have hhealing : lastInteger? sampleItems "healing" = none := by decide
  have hweapon : (attributesFrom sampleItems).text? "weapon" = some "<w>" := by
    rw [Attributes.text?, get?_attributesFrom]
    decide
  obtain ⟨hkill, htrigger, hheal, -⟩ := classify_encounter ⟨0, 0⟩ ⟨1, "s"⟩ sampleHead
    plain_sampleTag hbot inRange_sampleTag hidbot hitems
  have hgun := hkill "gun".toList (by decide) (by decide)
  rw [howner, String.ofList_toList] at hgun
  rw [hdamage, hweapon, howner] at htrigger
  rw [hhealing] at hheal
  exact ⟨plain_sampleTag, hbot, inRange_sampleTag, hidbot, hitems, hgun, htrigger, hheal⟩

end Moderation.Log
