import Mathlib
import ReplicaWatch.Proofs.Bytes
import ReplicaWatch.Proofs.Forms
import ReplicaWatch.Proofs.Json.Reading
import ReplicaWatch.Status.Decode

/-! Every spelling of a status. A status is written as an object whose fields may be left out where they have their
defaults, and the object is spelled as a text in any way that JSON has. Main statement: decoding any spelling
recovers the status. -/
namespace ReplicaWatch.Status

/-! ## How a status is written -/

def StateCounts.slots (c : StateCounts) : List Slot := [
  .count "unknown" c.unknown, .count "error" c.error, .count "syncing" c.syncing,
  .count "starting_replay" c.startingReplay, .count "replaying" c.replaying,
  .count "stopping_replay" c.stoppingReplay, .count "stopped" c.stopped]

def StateCounts.Written (c : StateCounts) : Json → Prop := HasOnly c.slots

def Summary.slots (s : Summary) : List Slot := [
  .requiredText "health" s.health, .requiredText "daemon_health" s.daemonHealth,
  .requiredText "image_health" s.imageHealth, ⟨["states"], s.states.Written, s.states = .zero⟩]

def Summary.Written (s : Summary) : Json → Prop := HasOnly s.slots

/-- The version of a daemon and whether it leads may be written under either of two names. -/
def Daemon.slots (d : Daemon) : List Slot := [
  .text ["service_id"] d.serviceId, .text ["instance_id"] d.instanceId, .text ["client_id"] d.clientId,
  .text ["hostname"] d.hostname, .text ["ceph_version", "version"] d.version,
    .flag ["leader", "is_leader"] d.isLeader,
  .text ["health"] d.health]

def Daemon.Written (d : Daemon) : Json → Prop := HasOnly d.slots

def Service.slots (s : Service) : List Slot := [
  .text ["service_id"] s.serviceId, .text ["instance_id"] s.instanceId, .text ["daemon_id"] s.daemonId,
  .text ["hostname"] s.hostname]

def Service.Written (s : Service) : Json → Prop := HasOnly s.slots

def PeerSite.slots (p : PeerSite) : List Slot := [
  .text ["site_name"] p.siteName, .text ["mirror_uuids"] p.mirrorUuids, .text ["state"] p.state,
  .text ["description"] p.description, .text ["last_update"] p.lastUpdate]

def PeerSite.Written (p : PeerSite) : Json → Prop := HasOnly p.slots

def Image.slots (i : Image) : List Slot := [
  .text ["name"] i.name, .text ["global_id"] i.globalId, .text ["state"] i.state, .text ["description"] i.description,
  ⟨["daemon_service"], i.service.Written, i.service = .blank⟩, .text ["last_update"] i.lastUpdate,
  .list "peer_sites" PeerSite.Written i.peerSites]

def Image.Written (i : Image) : Json → Prop := HasOnly i.slots

def Pool.slots (p : Pool) : List Slot := [
  ⟨["summary"], p.summary.Written, False⟩, .list "daemons" Daemon.Written p.daemons,
  .list "images" Image.Written p.images]

def Pool.Written (p : Pool) : Json → Prop := HasOnly p.slots

/-! ## What its form recovers -/

section
variable (name : String)

lemma recovers_optionalText (s : String) : (Fields.optional name Schema.text "").Recovers [.text [name] s] s :=
  recovers_optional name (recovers_text s)

lemma recovers_requiredText (s : String) : (Fields.required name Schema.text).Recovers [.requiredText name s] s :=
  recovers_required name (recovers_text s)

lemma recovers_optionalCount (n : ℤ) : (Fields.optional name Schema.count 0).Recovers [.count name n] n :=
  recovers_optional name (recovers_count n)

lemma recovers_optionalList {α : Type} {form : Form α} {item : α → Json → Prop} (h : ∀ a, form.Recovers (item a) a)
    (as : List α) : (Fields.optional name form.list []).Recovers [.list name item as] as :=
  recovers_optional name (recovers_list h as)

end

lemma recovers_stateCounts (c : StateCounts) : StateCounts.form.Recovers c.Written c :=
  recovers_record <| ((recovers_optionalCount "unknown" c.unknown).map StateCounts.mk)
    |>.seq (recovers_optionalCount "error" c.error)
    |>.seq (recovers_optionalCount "syncing" c.syncing)
    |>.seq (recovers_optionalCount "starting_replay" c.startingReplay)
    |>.seq (recovers_optionalCount "replaying" c.replaying)
    |>.seq (recovers_optionalCount "stopping_replay" c.stoppingReplay)
    |>.seq (recovers_optionalCount "stopped" c.stopped)

lemma recovers_summary (s : Summary) : Summary.form.Recovers s.Written s :=
  recovers_record <| ((recovers_requiredText "health" s.health).map Summary.mk)
    |>.seq (recovers_requiredText "daemon_health" s.daemonHealth)
    |>.seq (recovers_requiredText "image_health" s.imageHealth)
    |>.seq (recovers_optional "states" (recovers_stateCounts s.states))

lemma recovers_daemon (d : Daemon) : Daemon.form.Recovers d.Written d :=
  recovers_record <| ((recovers_optionalText "service_id" d.serviceId).map Daemon.mk)
    |>.seq (recovers_optionalText "instance_id" d.instanceId)
    |>.seq (recovers_optionalText "client_id" d.clientId)
    |>.seq (recovers_optionalText "hostname" d.hostname)
    |>.seq (recovers_optionalAs "version" "ceph_version" (recovers_text d.version))
    |>.seq (recovers_optionalAs "is_leader" "leader" (recovers_flag d.isLeader))
    |>.seq (recovers_optionalText "health" d.health)

lemma recovers_service (s : Service) : Service.form.Recovers s.Written s :=
  recovers_record <| ((recovers_optionalText "service_id" s.serviceId).map Service.mk)
    |>.seq (recovers_optionalText "instance_id" s.instanceId)
    |>.seq (recovers_optionalText "daemon_id" s.daemonId)
    |>.seq (recovers_optionalText "hostname" s.hostname)

lemma recovers_peerSite (p : PeerSite) : PeerSite.form.Recovers p.Written p :=
  recovers_record <| ((recovers_optionalText "site_name" p.siteName).map PeerSite.mk)
    |>.seq (recovers_optionalText "mirror_uuids" p.mirrorUuids)
    |>.seq (recovers_optionalText "state" p.state)
    |>.seq (recovers_optionalText "description" p.description)
    |>.seq (recovers_optionalText "last_update" p.lastUpdate)

lemma recovers_image (i : Image) : Image.form.Recovers i.Written i :=
  recovers_record <| ((recovers_optionalText "name" i.name).map Image.mk)
    |>.seq (recovers_optionalText "global_id" i.globalId)
    |>.seq (recovers_optionalText "state" i.state)
    |>.seq (recovers_optionalText "description" i.description)
    |>.seq (recovers_optional "daemon_service" (recovers_service i.service))
    |>.seq (recovers_optionalText "last_update" i.lastUpdate)
    |>.seq (recovers_optionalList "peer_sites" recovers_peerSite i.peerSites)

lemma recovers_pool (p : Pool) : Pool.form.Recovers p.Written p :=
  recovers_record <| ((recovers_required "summary" (recovers_summary p.summary)).map Pool.mk)
    |>.seq (recovers_optionalList "daemons" recovers_daemon p.daemons)
    |>.seq (recovers_optionalList "images" recovers_image p.images)

/-! ## How deep it is nested -/

section
variable {v : Json} {n : ℕ}

lemma StateCounts.Written.within {c : StateCounts} (h : c.Written v) : v.Within 1 :=
  HasOnly.within (by simp [StateCounts.slots]) h

lemma Summary.Written.within {s : Summary} (h : s.Written v) : v.Within 2 := by
  have states : (⟨["states"], s.states.Written, s.states = .zero⟩ : Slot).Within 1 :=
    fun _ => StateCounts.Written.within
  exact HasOnly.within (by simp [Summary.slots, states]) h

lemma Daemon.Written.within {d : Daemon} (h : d.Written v) : v.Within 1 :=
  HasOnly.within (by simp [Daemon.slots]) h

lemma Service.Written.within {s : Service} (h : s.Written v) : v.Within 1 :=
  HasOnly.within (by simp [Service.slots]) h

lemma PeerSite.Written.within {p : PeerSite} (h : p.Written v) : v.Within 1 :=
  HasOnly.within (by simp [PeerSite.slots]) h

lemma Image.Written.within {i : Image} (h : i.Written v) : v.Within 3 := by
  have service : (⟨["daemon_service"], i.service.Written, i.service = .blank⟩ : Slot).Within 2 :=
    fun _ written => written.within.mono (by simp)
  have peerSites : (Slot.list "peer_sites" PeerSite.Written i.peerSites).Within 2 :=
    fun _ => Section.within fun _ _ => PeerSite.Written.within
  exact HasOnly.within (by simp [Image.slots, service, peerSites]) h

lemma Pool.Written.within {p : Pool} (h : p.Written v) : v.Within 5 := by
  have summary : (⟨["summary"], p.summary.Written, False⟩ : Slot).Within 4 :=
    fun _ written => written.within.mono (by simp)
  have daemons : (Slot.list "daemons" Daemon.Written p.daemons).Within 4 :=
    fun _ written => (Section.within (fun _ _ => Daemon.Written.within) written).mono (by simp)
  have images : (Slot.list "images" Image.Written p.images).Within 4 :=
    fun _ => Section.within fun _ _ => Image.Written.within
  exact HasOnly.within (by simp [Pool.slots, summary, daemons, images]) h

end

/-- Decoding a status recovers it from every text that spells it, given as bytes or as a text. -/
theorem decode_spelling (p : Pool) {cs : List Char} {v : Json} (spells : Json.Spells true (.ofChars cs) (.spaced v))
    (written : p.Written v) :
    decode (Utf8.encode cs) = .ok p ∧ readDocument Pool.form (.ofChars cs) = .ok p := by
  have read : readDocument Pool.form (.ofChars cs) = .ok p := by
    rw [readDocument, spells.readStrict_eq (written.within.mono (by decide))]
    exact (recovers_pool p).read_eq written
  refine ⟨?_, read⟩
  rw [decode, Utf8.decode_encode]
  exact read

/-! ## A small status -/

namespace Sample

open Json

/-- One daemon leads, and there are no images. -/
def status : Pool := ⟨⟨"OK", "", "\u00e9", .zero⟩, [⟨"", "", "", "", "17", true, ""⟩], []⟩

/-- A text of the status, with a character escaped, a list that is null, and one name of either kind. -/
def chars : List Char :=
  ("\x7b\"images\": null,\"summary\": \x7b\"image_health\": \"\\u00e9\",\"daemon_health\": \"\"," ++
    "\"health\": \"OK\"\x7d," ++
    "\"daemons\": [\x7b\"leader\": true,\"version\": \"17\"\x7d]\x7d").toList

def summary : Json :=
  .object [(.ofString "image_health", .ofString "\u00e9"), (.ofString "daemon_health", .ofString ""),
    (.ofString "health", .ofString "OK")]

def daemon : Json := .object [(.ofString "leader", .bool true), (.ofString "version", .ofString "17")]

def value : Json :=
  .object [(.ofString "images", .null), (.ofString "summary", summary), (.ofString "daemons", .array [daemon])]

lemma chars_spell : Spells true (.ofChars chars) (.spaced value) := by
  have accent : Quotes (codeEscape (.char '0') (.char '0') (.char 'e') (.char '9') ++ []) (.ofString "\u00e9") :=
    .code (n := 0xE9) rfl ⟨rfl, rfl⟩ .nothing
  have summary : Spells true _ (.value summary) :=
    .distinct (.moreMembers (.named "image_health" (by decide +kernel) (.text accent fun _ => by decide +kernel))
      (.moreMembers (.named "daemon_health" (by decide +kernel) (.plain "" (by decide +kernel)))
        (.lastMember (.named "health" (by decide +kernel) (.plain "OK" (by decide +kernel)))))) (by decide +kernel)
  have daemon : Spells true _ (.value daemon) :=
    .distinct (.moreMembers (.named "leader" (by decide +kernel) (.bool true))
      (.lastMember (.named "version" (by decide +kernel) (.plain "17" (by decide +kernel))))) (by decide +kernel)
  have whole : Spells true _ (.value value) :=
    .distinct (.moreMembers (.named "images" (by decide +kernel) .null)
      (.moreMembers (.named "summary" (by decide +kernel) summary)
        (.lastMember (.named "daemons" (by decide +kernel) (.array (.lastItem daemon.bare)))))) (by decide +kernel)
  exact whole.bare.of_eq (by decide +kernel)

lemma summary_written : status.summary.Written summary := by
  refine .intro (by decide +kernel) (by simp [Summary.slots, Slot.requiredText]) ?_
  simp only [Summary.slots, List.forall_mem_cons]
  refine ⟨.single (w := .ofString "OK") ?_ rfl, .single (w := .ofString "") ?_ rfl,
    .single (w := .ofString "\u00e9") ?_ rfl, .omitted rfl ?_, by simp⟩
  all_goals simp [Json.member?, lookup, Text.ofString_inj]

lemma daemon_written : Daemon.Written ⟨"", "", "", "", "17", true, ""⟩ daemon := by
  refine .intro (by decide +kernel) (by simp [Daemon.slots, Slot.text, Slot.flag]) ?_
  simp only [Daemon.slots, List.forall_mem_cons]
  refine ⟨.omitted rfl ?_, .omitted rfl ?_, .omitted rfl ?_, .omitted rfl ?_,
    @Slot.At.written _ _ "version" (.ofString "17") (by simp [Slot.text]) ?_ rfl ?_,
    @Slot.At.written _ _ "leader" (.bool true) (by simp [Slot.flag]) ?_ rfl ?_, .omitted rfl ?_, by simp⟩
  all_goals simp [Json.member?, lookup, Text.ofString_inj, Slot.text, Slot.flag]

lemma value_written : status.Written value := by
  refine .intro (by decide +kernel) (by simp [Pool.slots, Slot.list]) ?_
  simp only [Pool.slots, List.forall_mem_cons]
  refine ⟨.single (w := summary) ?_ summary_written,
    .single (w := .array [daemon]) ?_ (.array (.cons daemon_written .nil)),
    .single (w := .null) ?_ .null, by simp⟩
  all_goals simp [Json.member?, lookup, Text.ofString_inj]

end Sample

theorem decode_spelling_sample :
    decode (Utf8.encode Sample.chars) = .ok Sample.status ∧
      readDocument Pool.form (.ofChars Sample.chars) = .ok Sample.status :=
  decode_spelling Sample.status Sample.chars_spell Sample.value_written

end ReplicaWatch.Status
