import Mathlib.Data.List.Find
import Mathlib.Data.List.Forall2
import Mathlib.Data.List.Nodup
import WatchLink.Link.Gatt

/-!
# The layout that a link is bound to

A discovery offers a layout if the first service of the layout's name has all its characteristics;
other services of that name do not count, nor does it matter what else the service has, in which
order or how often. A link is bound to the first of its layouts that is offered, though layouts
before it may be there in part. Where none is offered nothing is bound, whatever was bound before,
and the error tells a known service that lacks something from no known service at all.
-/

namespace WatchLink

/-- Services of one name with the same characteristics, in any order and any number of times. -/
def DiscoveredService.Alike (a b : DiscoveredService) : Prop :=
  a.uuid = b.uuid ∧ ∀ uuid, uuid ∈ a.characteristics ↔ uuid ∈ b.characteristics

namespace Discovery

variable (discovery : Discovery)

/-- The first service of the layout's name has every characteristic of the layout. -/
def Offers (t : ServiceTemplate) : Prop :=
  ∃ service, discovery.service? t.service = some service ∧
    ∀ uuid ∈ t.resources, uuid ∈ service.characteristics

/-- Some service has the layout's name. -/
def Shows (t : ServiceTemplate) : Prop := ∃ service ∈ discovery.services, service.uuid = t.service

/-- The layout is offered and none before it is. -/
def OffersFirst (templates : List ServiceTemplate) (t : ServiceTemplate) : Prop :=
  ∃ before after, templates = before ++ t :: after ∧ (∀ u ∈ before, ¬ discovery.Offers u) ∧
    discovery.Offers t

variable {discovery} {t : ServiceTemplate} {templates : List ServiceTemplate}

theorem shows_iff : discovery.Shows t ↔ discovery.service? t.service ≠ none := by
  rw [service?, Ne, List.find?_eq_none]
  simp [Shows]

theorem Offers.shows (h : discovery.Offers t) : discovery.Shows t := by
  obtain ⟨service, hservice, -⟩ := h
  rw [shows_iff, hservice]
  exact Option.some_ne_none service

theorem OffersFirst.mem (h : discovery.OffersFirst templates t) :
    t ∈ templates ∧ discovery.Offers t := by
  obtain ⟨before, after, rfl, -, ht⟩ := h
  exact ⟨List.mem_append_right before List.mem_cons_self, ht⟩

theorem exists_offersFirst (h : ∃ t ∈ templates, discovery.Offers t) :
    ∃ t, discovery.OffersFirst templates t := by
  induction templates with
  | nil => exact absurd h (by simp)
  | cons u templates ih =>
      by_cases hu : discovery.Offers u
      · exact ⟨u, [], templates, rfl, List.forall_mem_nil _, hu⟩
      · obtain ⟨t, ht, hoffers⟩ := h
        have hrest : t ∈ templates :=
          (List.mem_cons.1 ht).resolve_left fun heq => hu (heq ▸ hoffers)
        obtain ⟨t, before, after, rfl, hbefore, ht⟩ := ih ⟨t, hrest, hoffers⟩
        exact ⟨t, u :: before, after, rfl, List.forall_mem_cons.2 ⟨hu, hbefore⟩, ht⟩

/-! ## Discoveries that come to the same -/

/-- Under every name the same characteristics are found first, or nothing is. -/
def Alike (a b : Discovery) : Prop :=
  ∀ uuid, Option.Rel DiscoveredService.Alike (a.service? uuid) (b.service? uuid)

theorem alike_of_forall₂ {a b : Discovery}
    (h : List.Forall₂ DiscoveredService.Alike a.services b.services) : a.Alike b := by
  intro uuid
  obtain ⟨services⟩ := a
  obtain ⟨services'⟩ := b
  change List.Forall₂ DiscoveredService.Alike services services' at h
  simp only [service?]
  induction h with
  | nil => exact .none
  | @cons s s' _ _ hservice _ ih =>
      by_cases hname : s.uuid = uuid
      · have hname' : s'.uuid = uuid := hservice.1.symm.trans hname
        rw [List.find?_cons_of_pos (by simpa using hname),
          List.find?_cons_of_pos (by simpa using hname')]
        exact .some hservice
      · have hname' : ¬ s'.uuid = uuid := fun h => hname (hservice.1.trans h)
        rw [List.find?_cons_of_neg (by simpa using hname),
          List.find?_cons_of_neg (by simpa using hname')]
        exact ih

/-- Where names are distinct it does not matter in which order the services stand. -/
theorem service?_eq_of_perm {a b : Discovery} (h : a.services.Perm b.services)
    (distinct : (a.services.map DiscoveredService.uuid).Nodup) (uuid : Uuid) :
    a.service? uuid = b.service? uuid := by
  refine List.find?_eq_find?_of_perm h fun s hs s' hs' => ?_
  refine List.inj_on_of_nodup_map distinct hs.1 hs'.1 ?_
  exact (of_decide_eq_true hs.2).trans (of_decide_eq_true hs'.2).symm

end Discovery

namespace GattLink

open Discovery

variable {discovery : Discovery} {t : ServiceTemplate} {templates : List ServiceTemplate}

/-! ## Going through the layouts -/

theorem isComplete_iff (t : ServiceTemplate) (service : DiscoveredService) :
    t.isComplete service = true ↔ ∀ uuid ∈ t.resources, uuid ∈ service.characteristics := by
  simp [ServiceTemplate.isComplete]

theorem select_of_offers (h : discovery.Offers t) (templates : List ServiceTemplate)
    (partialSeen : Bool) : select discovery (t :: templates) partialSeen = .ok t := by
  obtain ⟨service, hservice, hall⟩ := h
  rw [select, hservice]
  exact if_pos ((isComplete_iff t service).2 hall)

theorem select_of_shows (h : discovery.Shows t) (partly : ¬ discovery.Offers t)
    (templates : List ServiceTemplate) (partialSeen : Bool) :
    select discovery (t :: templates) partialSeen = select discovery templates true := by
  obtain ⟨service, hservice⟩ := Option.ne_none_iff_exists'.1 (shows_iff.1 h)
  rw [select, hservice]
  exact if_neg fun hall => partly ⟨service, hservice, (isComplete_iff t service).1 hall⟩

theorem select_of_not_shows (h : ¬ discovery.Shows t) (templates : List ServiceTemplate)
    (partialSeen : Bool) :
    select discovery (t :: templates) partialSeen = select discovery templates partialSeen := by
  rw [select, not_not.1 (mt shows_iff.2 h)]

/-- A layout that is not offered is passed over. -/
theorem select_of_not_offers (h : ¬ discovery.Offers t) (templates : List ServiceTemplate)
    (partialSeen : Bool) :
    ∃ seen, select discovery (t :: templates) partialSeen = select discovery templates seen := by
  by_cases hshows : discovery.Shows t
  · exact ⟨true, select_of_shows hshows h templates partialSeen⟩
  · exact ⟨partialSeen, select_of_not_shows hshows templates partialSeen⟩

theorem select_of_offersFirst (h : discovery.OffersFirst templates t) (partialSeen : Bool) :
    select discovery templates partialSeen = .ok t := by
  obtain ⟨before, after, rfl, hbefore, ht⟩ := h
  induction before generalizing partialSeen with
  | nil => exact select_of_offers ht after partialSeen
  | cons u before ih =>
      obtain ⟨hu, hbefore⟩ := List.forall_mem_cons.1 hbefore
      obtain ⟨seen, hselect⟩ := select_of_not_offers hu (before ++ t :: after) partialSeen
      rw [List.cons_append, hselect]
      exact ih seen hbefore

theorem select_of_forall_not_shows (h : ∀ t ∈ templates, ¬ discovery.Shows t)
    (partialSeen : Bool) : select discovery templates partialSeen =
      .error (if partialSeen then .resourceIncomplete else .unknownService) := by
  induction templates with
  | nil => rfl
  | cons t templates ih =>
      obtain ⟨ht, htemplates⟩ := List.forall_mem_cons.1 h
      rw [select_of_not_shows ht, ih htemplates]

/-- One layout that is there in part decides the error, wherever it stands. -/
theorem select_of_exists_shows (h : ∃ t ∈ templates, discovery.Shows t)
    (none : ∀ t ∈ templates, ¬ discovery.Offers t) (partialSeen : Bool) :
    select discovery templates partialSeen = .error .resourceIncomplete := by
  induction templates generalizing partialSeen with
  | nil => exact absurd h (by simp)
  | cons t templates ih =>
      obtain ⟨ht, htemplates⟩ := List.forall_mem_cons.1 none
      by_cases hrest : ∃ u ∈ templates, discovery.Shows u
      · obtain ⟨seen, hselect⟩ := select_of_not_offers ht templates partialSeen
        rw [hselect, ih hrest htemplates]
      · have hshows : discovery.Shows t := by
          obtain ⟨u, hu, hshows⟩ := h
          rcases List.mem_cons.1 hu with rfl | hu
          · exact hshows
          · exact absurd ⟨u, hu, hshows⟩ hrest
        rw [select_of_shows hshows ht,
          select_of_forall_not_shows fun u hu hshows => hrest ⟨u, hu, hshows⟩]
        rfl

/-- All that is read of a discovery is what is found first under a name. -/
theorem select_eq_of_alike {other : Discovery} (h : discovery.Alike other)
    (templates : List ServiceTemplate) (partialSeen : Bool) :
    select other templates partialSeen = select discovery templates partialSeen := by
  induction templates generalizing partialSeen with
  | nil => rfl
  | cons t templates ih =>
      have halike := h t.service
      rw [select, select]
      generalize discovery.service? t.service = found, other.service? t.service = found' at halike ⊢
      cases halike with
      | none => exact ih partialSeen
      | @some service service' hservice =>
          have hcomplete : t.isComplete service' = t.isComplete service := by
            rw [Bool.eq_iff_iff, isComplete_iff, isComplete_iff]
            exact forall₂_congr fun uuid _ => (hservice.2 uuid).symm
          simp only [hcomplete, ih]

/-! ## Binding -/

/-- A link that was bound to a layout, nothing counted. -/
def boundTo (link : GattLink) (t : ServiceTemplate) : GattLink :=
  { link with bound := some (.ofTemplate t) }

theorem bind_of_select {link : GattLink} {discovery : Discovery} {t : ServiceTemplate}
    (h : select discovery link.templates false = .ok t) :
    link.bind discovery = (link.boundTo t, .ok t.mode) := by
  rw [bind, h]
  rfl

theorem bind_of_select_error {link : GattLink} {discovery : Discovery} {e : LinkError}
    (h : select discovery link.templates false = .error e) :
    link.bind discovery = ({ link with bound := none }, .error e) := by
  rw [bind, h]

/-- What binding comes to. -/
inductive Settled (link : GattLink) (discovery : Discovery) :
    GattLink × Except LinkError HandshakeMode → Prop
  | offered {t : ServiceTemplate} (first : discovery.OffersFirst link.templates t) :
      Settled link discovery (link.boundTo t, .ok t.mode)
  | incomplete (none : ∀ t ∈ link.templates, ¬ discovery.Offers t)
      (shown : ∃ t ∈ link.templates, discovery.Shows t) :
      Settled link discovery ({ link with bound := .none }, .error .resourceIncomplete)
  | unknown (none : ∀ t ∈ link.templates, ¬ discovery.Shows t) :
      Settled link discovery ({ link with bound := .none }, .error .unknownService)

theorem settled_bind (link : GattLink) (discovery : Discovery) :
    Settled link discovery (link.bind discovery) := by
  by_cases hoffers : ∃ t ∈ link.templates, discovery.Offers t
  · obtain ⟨t, hfirst⟩ := exists_offersFirst hoffers
    rw [bind_of_select (select_of_offersFirst hfirst false)]
    exact .offered hfirst
  · have hnone : ∀ t ∈ link.templates, ¬ discovery.Offers t :=
      fun t ht hoffer => hoffers ⟨t, ht, hoffer⟩
    by_cases hshows : ∃ t ∈ link.templates, discovery.Shows t
    · rw [bind_of_select_error (select_of_exists_shows hshows hnone false)]
      exact .incomplete hnone hshows
    · have hunknown : ∀ t ∈ link.templates, ¬ discovery.Shows t :=
        fun t ht hshow => hshows ⟨t, ht, hshow⟩
      rw [bind_of_select_error (select_of_forall_not_shows hunknown false)]
      exact .unknown hunknown

section

variable {link : GattLink} {answer : GattLink × Except LinkError HandshakeMode}
  (h : Settled link discovery answer)

include h

theorem Settled.ok_iff :
    (∃ mode, answer.2 = .ok mode) ↔ ∃ t ∈ link.templates, discovery.Offers t := by
  cases h with
  | offered first => exact iff_of_true ⟨_, rfl⟩ ⟨_, first.mem⟩
  | incomplete none _ =>
      exact iff_of_false (by rintro ⟨mode, ⟨⟩⟩) fun ⟨t, ht, hoffers⟩ => none t ht hoffers
  | unknown none =>
      exact iff_of_false (by rintro ⟨mode, ⟨⟩⟩) fun ⟨t, ht, hoffers⟩ => none t ht hoffers.shows

theorem Settled.incomplete_iff :
    answer.2 = .error .resourceIncomplete ↔
      (∀ t ∈ link.templates, ¬ discovery.Offers t) ∧
        ∃ t ∈ link.templates, discovery.Shows t := by
  cases h with
  | offered first =>
      obtain ⟨ht, hoffers⟩ := first.mem
      exact iff_of_false (by rintro ⟨⟩) fun hnone => hnone.1 _ ht hoffers
  | incomplete none shown => exact iff_of_true rfl ⟨none, shown⟩
  | unknown none =>
      exact iff_of_false (by rintro ⟨⟩) fun ⟨_, t, ht, hshows⟩ => none t ht hshows

theorem Settled.unknown_iff :
    answer.2 = .error .unknownService ↔ ∀ t ∈ link.templates, ¬ discovery.Shows t := by
  cases h with
  | offered first =>
      obtain ⟨ht, hoffers⟩ := first.mem
      exact iff_of_false (by rintro ⟨⟩) fun hnone => hnone _ ht hoffers.shows
  | incomplete _ shown =>
      obtain ⟨t, ht, hshows⟩ := shown
      exact iff_of_false (by rintro ⟨⟩) fun hnone => hnone t ht hshows
  | unknown none => exact iff_of_true rfl none

theorem Settled.of_error {e : LinkError} (failed : answer.2 = .error e) :
    (e = .resourceIncomplete ∨ e = .unknownService) ∧
      answer.1 = { link with bound := none } := by
  cases h with
  | offered => cases failed
  | incomplete =>
      cases failed
      exact ⟨.inl rfl, rfl⟩
  | unknown =>
      cases failed
      exact ⟨.inr rfl, rfl⟩

end

theorem bind_eq_of_alike {other : Discovery} (h : discovery.Alike other) (link : GattLink) :
    link.bind other = link.bind discovery := by
  rw [bind, bind, select_eq_of_alike h]

theorem bind_eq_of_perm {other : Discovery} (h : discovery.services.Perm other.services)
    (distinct : (discovery.services.map DiscoveredService.uuid).Nodup) (link : GattLink) :
    link.bind other = link.bind discovery := by
  refine bind_eq_of_alike (fun uuid => ?_) link
  rw [service?_eq_of_perm h distinct]
  cases other.service? uuid with
  | none => exact .none
  | some service => exact .some ⟨rfl, fun _ => Iff.rfl⟩

/-- A link is bound just when one of its layouts is offered, and then to the first that is, nothing
counted and only the characteristic for uploads not counting. Otherwise nothing is bound; a known
service that was found makes it a want of characteristics. Neither the order of characteristics
nor their repetition matters, nor that of services with distinct names. -/
theorem bind_settles (link : GattLink) (discovery : Discovery) :
    ((∃ mode, (link.bind discovery).2 = .ok mode) ↔
      ∃ t ∈ link.templates, discovery.Offers t) ∧
    (∀ t, discovery.OffersFirst link.templates t →
      link.bind discovery =
        ({ link with
            bound := some
              { commandRead := ⟨t.commandRead, t.encrypted, true, 0⟩
                commandWrite := ⟨t.commandWrite, t.encrypted, true, 0⟩
                activityData := ⟨t.activityData, t.encrypted, true, 0⟩
                dataUpload := ⟨t.dataUpload, t.encrypted, false, 0⟩
                encrypted := t.encrypted } },
          .ok (if t.encrypted then .encrypted else .clearText))) ∧
    ((link.bind discovery).2 = .error .resourceIncomplete ↔
      (∀ t ∈ link.templates, ¬ discovery.Offers t) ∧
        ∃ t ∈ link.templates, discovery.Shows t) ∧
    ((link.bind discovery).2 = .error .unknownService ↔
      ∀ t ∈ link.templates, ¬ discovery.Shows t) ∧
    (∀ e, (link.bind discovery).2 = .error e →
      (e = .resourceIncomplete ∨ e = .unknownService) ∧
        (link.bind discovery).1 = { link with bound := none }) ∧
    ∀ other : Discovery,
      List.Forall₂ DiscoveredService.Alike discovery.services other.services ∨
          discovery.services.Perm other.services ∧
            (discovery.services.map DiscoveredService.uuid).Nodup →
        link.bind other = link.bind discovery := by
  have hfirst (t : ServiceTemplate) (h : discovery.OffersFirst link.templates t) :
      link.bind discovery = (link.boundTo t, .ok t.mode) :=
    bind_of_select (select_of_offersFirst h false)
  have hother (other : Discovery)
      (h : List.Forall₂ DiscoveredService.Alike discovery.services other.services ∨
        discovery.services.Perm other.services ∧
          (discovery.services.map DiscoveredService.uuid).Nodup) :
      link.bind other = link.bind discovery := by
    rcases h with halike | ⟨hperm, hdistinct⟩
    · exact bind_eq_of_alike (alike_of_forall₂ halike) link
    · exact bind_eq_of_perm hperm hdistinct link
  have hsettled := settled_bind link discovery
  exact ⟨hsettled.ok_iff, hfirst, hsettled.incomplete_iff, hsettled.unknown_iff,
    fun _ failed => hsettled.of_error failed, hother⟩

/-- A watch whose encrypted layout lacks a characteristic; the other one is whole, with its
characteristics out of order and one of them twice. -/
def halfEncrypted : Discovery :=
  ⟨[⟨.ofShort 0xFE95, [.ofShort 0x0051, .ofShort 0x0052, .ofShort 0x0053]⟩,
    ⟨.ofShort 0xFDAB, [.ofShort 0x0004, .ofShort 0x0001, .ofShort 0x0003, .ofShort 0x0001,
      .ofShort 0x0002]⟩]⟩

/-- A link that was bound to the encrypted layout goes on to the other one. -/
theorem bind_settles_halfEncrypted :
    ∃ encrypted clear, ServiceTemplate.known = [encrypted, clear] ∧
      halfEncrypted.Shows encrypted ∧ halfEncrypted.OffersFirst [encrypted, clear] clear ∧
      (boundTo {} encrypted).bind halfEncrypted = (boundTo {} clear, .ok .clearText) ∧
      (boundTo {} encrypted).bind ⟨halfEncrypted.services.reverse⟩ =
        (boundTo {} encrypted).bind halfEncrypted := by
  have hclear : halfEncrypted.OffersFirst ServiceTemplate.known ServiceTemplate.known[1] := by
    refine ⟨[ServiceTemplate.known[0]], [], rfl, ?_, halfEncrypted.services[1], ?_, ?_⟩
    · rintro t ht ⟨service, hservice, hall⟩
      obtain rfl := List.mem_singleton.1 ht
      obtain rfl : halfEncrypted.services[0] = service := Option.some.inj hservice
      have hpartly : ServiceTemplate.known[0].isComplete halfEncrypted.services[0] = false := by
        decide +kernel
      exact absurd ((isComplete_iff _ _).2 hall) (Bool.eq_false_iff.1 hpartly)
    · decide +kernel
    · exact (isComplete_iff _ _).1 (by decide +kernel)
  obtain ⟨-, hfirst, -, -, -, hother⟩ :=
    bind_settles (boundTo {} ServiceTemplate.known[0]) halfEncrypted
  have hdistinct : (halfEncrypted.services.map DiscoveredService.uuid).Nodup := by decide +kernel
  exact ⟨_, _, rfl, ⟨_, List.mem_cons_self, rfl⟩, hclear, hfirst _ hclear,
    hother ⟨halfEncrypted.services.reverse⟩ (.inr ⟨(List.reverse_perm _).symm, hdistinct⟩)⟩

end GattLink

end WatchLink
