import Mathlib
import ReplicaWatch.Proofs.Json.Documents
import ReplicaWatch.Proofs.StatusDocuments

/-! What a description tells about a replay. A description is searched for its first brace, and what is told is the
document that begins there. Main statement: the text in front of that document does not matter, the document may
spell the replay in any way, and anything behind it but blanks spoils it. -/
namespace ReplicaWatch

lemma Text.ofString_append (a b : String) : Text.ofString (a ++ b) = .ofString a ++ .ofString b := by
  simp [Text.ofString, Text.ofChars]

/-! ## How a replay is written -/

/-- A rate is written as a number, and a whole one as an integer too. -/
inductive IsRate (x : Binary64) : Json → Prop
  | float : IsRate x (.float x)
  | int {n : ℤ} (same : x = .ofInt n) : IsRate x (.int n)

/-- A rate, which may be left out if it is zero. -/
def Slot.rate (name : String) (x : Binary64) : Slot := ⟨[name], IsRate x, x = .ofInt 0⟩

lemma recovers_rate (x : Binary64) : Schema.rate.Recovers (IsRate x) x := by
  refine recovers_scalar fun v written => ?_
  cases written with
  | float => rfl
  | int same => rw [same, Schema.readRate]

namespace Status

open Json

def Replay.slots (r : Replay) : List Slot := [
  .rate "bytes_per_second" r.bytesPerSecond, .rate "bytes_per_snapshot" r.bytesPerSnapshot,
  .count "local_snapshot_timestamp" r.localSnapshotTimestamp,
  .count "remote_snapshot_timestamp" r.remoteSnapshotTimestamp, .text ["replay_state"] r.replayState]

/-- An object writes a replay, whatever else it has. -/
def Replay.Written (r : Replay) : Json → Prop := Has r.slots

lemma recovers_replay (r : Replay) : Replay.form.Recovers r.Written r :=
  recovers_form <| ((recovers_optional "bytes_per_second" (recovers_rate r.bytesPerSecond)).map Replay.mk)
    |>.seq (recovers_optional "bytes_per_snapshot" (recovers_rate r.bytesPerSnapshot))
    |>.seq (recovers_optionalCount "local_snapshot_timestamp" r.localSnapshotTimestamp)
    |>.seq (recovers_optionalCount "remote_snapshot_timestamp" r.remoteSnapshotTimestamp)
    |>.seq (recovers_optionalText "replay_state" r.replayState)

/-! ## Where the document begins -/

section
variable {p t : Text} {r : Replay}

lemma dropWhile_prefix (h : .char '\x7b' ∉ p) (t : Text) :
    (p ++ t).dropWhile (· != .char '\x7b') = t.dropWhile (· != .char '\x7b') := by
  refine List.dropWhile_append_of_pos fun s hs => ?_
  have other : s ≠ .char '\x7b' := fun same => h (same ▸ hs)
  simpa using other

/-- What stands in front of the first brace does not matter. -/
lemma replay?_append (h : .char '\x7b' ∉ p) (t : Text) : replay? (p ++ t) = replay? t := by
  rw [replay?, replay?, dropWhile_prefix h]

lemma replay?_nil : replay? [] = none := rfl

lemma replay?_plain (h : .char '\x7b' ∉ p) : replay? p = none := by
  simpa [replay?_nil] using replay?_append h []

lemma replay?_brace (t : Text) :
    replay? (.char '\x7b' :: t) = (readDocument Replay.form (.char '\x7b' :: t)).toOption := by
  rw [replay?, List.dropWhile_cons_of_neg (by simp)]
  dsimp only
  cases readDocument Replay.form (.char '\x7b' :: t) <;> rfl

lemma readDocument_eq_ok_iff {α : Type} {form : Form α} {a : α} :
    readDocument form t = .ok a ↔ ∃ v, readStrict t = some v ∧ form.read v = .ok a := by
  rw [readDocument]
  cases readStrict t <;> simp

/-- A description tells about a replay exactly if a document of it begins at the first brace. -/
theorem replay?_eq_some_iff : replay? t = some r ↔
    ∃ p document, t = p ++ .char '\x7b' :: document ∧ .char '\x7b' ∉ p ∧
      ∃ v, readStrict (.char '\x7b' :: document) = some v ∧ Replay.form.read v = .ok r := by
  have begun (document : Text) : replay? (.char '\x7b' :: document) = some r ↔
      ∃ v, readStrict (.char '\x7b' :: document) = some v ∧ Replay.form.read v = .ok r := by
    rw [replay?_brace, ← readDocument_eq_ok_iff]
    cases readDocument Replay.form (.char '\x7b' :: document) <;> simp [Except.toOption]
  constructor
  · intro told
    by_cases brace : .char '\x7b' ∈ t
    · obtain ⟨p, document, rfl, first⟩ := List.eq_append_cons_of_mem brace
      rw [replay?_append first, begun] at told
      exact ⟨p, document, rfl, first, told⟩
    · simp [replay?_plain brace] at told
  · rintro ⟨p, document, rfl, first, told⟩
    rwa [replay?_append first, begun]

end

/-! ## Spelled replays -/

section
variable {t u : Text} {v : Json} {ms : List (Text × Json)} {r : Replay}

lemma brace_not_blank {b : Text} (blanks : Blanks b) : .char '\x7b' ∉ b := by
  intro brace
  cases blanks _ brace

/-- A document that writes a replay is told as this replay. -/
lemma replay?_of_isDocument (document : IsDocument t v) (written : r.Written v) : replay? t = some r := by
  obtain ⟨ms, rfl⟩ := written.1
  have read := document.readStrict_eq
  cases document.spelled with
  | @spaced b u b' _ before value after =>
    obtain ⟨rest, rfl⟩ := value.brace
    rw [readStrict_blanks before] at read
    exact replay?_eq_some_iff.2
      ⟨b, rest ++ b', rfl, brace_not_blank before, _, read, (recovers_replay r).read_eq written⟩

lemma replay?_trailing (spelled : Spells false u (.value (.object ms))) (junk : ¬Blanks t) :
    replay? (u ++ t) = none := by
  have refused := spelled.readStrict_trailing junk
  obtain ⟨rest, rfl⟩ := spelled.brace
  rw [List.cons_append] at refused ⊢
  rw [replay?_brace, readDocument, refused]
  rfl

end

/-! ## Objects with one member more -/

namespace Embedding

def replay : Replay := ⟨.ofInt 0, .ofInt 0, 1, 2, "idle"⟩

def others : String := "\"replay_state\": \"idle\",\"local_snapshot_timestamp\": 1,\"remote_snapshot_timestamp\": 2"

def tail : String := "," ++ others ++ "\x7d"

/-- A text of an object that writes the replay and has a member more, whose value is given as a text. -/
def text (x : String) : String := "\x7b\"x\": " ++ x ++ tail

def value (x : Json) : Json := .object [(.ofString "x", x), (.ofString "replay_state", .ofString "idle"),
  (.ofString "local_snapshot_timestamp", .int 1), (.ofString "remote_snapshot_timestamp", .int 2)]

lemma value_written (x : Json) : replay.Written (value x) := by
  refine ⟨⟨_, rfl⟩, ?_⟩
  simp only [Replay.slots, List.forall_mem_cons]
  refine ⟨.omitted rfl ?_, .omitted rfl ?_, .single (w := .int 1) ?_ rfl, .single (w := .int 2) ?_ rfl,
    .single (w := .ofString "idle") ?_ rfl, by simp⟩
  all_goals simp [value, Json.member?, lookup, Text.ofString_inj, Slot.rate]

lemma value_within {x : Json} (h : x.Within 1) : (value x).Within maxNesting := by
  have shallow : (value x).Within 2 := by simp [value, Within, h, Json.ofString]
  exact shallow.mono (by decide)

section
variable {strict : Bool} {x : String} {v : Json}

lemma others_spell : Spells strict (.ofString others) (.members [(.ofString "replay_state", .ofString "idle"),
    (.ofString "local_snapshot_timestamp", .int 1), (.ofString "remote_snapshot_timestamp", .int 2)]) := by
  have one : Spells strict [.char '1'] (.value (.int 1)) :=
    .int false (.cons (b := 1) rfl .nil) (by simp [IsWhole]) (by decide)
  have two : Spells strict [.char '2'] (.value (.int 2)) :=
    .int false (.cons (b := 2) rfl .nil) (by simp [IsWhole]) (by decide)
  have members := Spells.moreMembers (.named "replay_state" (by decide +kernel) (.plain "idle" (by decide +kernel)))
    (.moreMembers (.named "local_snapshot_timestamp" (by decide +kernel) one)
      (.lastMember (.named "remote_snapshot_timestamp" (by decide +kernel) two)))
  exact members.of_eq (by decide +kernel)

lemma text_spells (h : Spells strict (.ofString x) (.value v)) :
    Spells strict (.ofString (text x)) (.value (value v)) := by
  have object : Spells strict _ (.value (value v)) :=
    .distinct (.moreMembers (.named "x" (by decide +kernel) h) others_spell) (by simp [Text.ofString_inj])
  refine object.of_eq ?_
  simp [text, tail, Text.ofString, Text.ofChars, quoted, quote]

/-- A value that begins with a lexeme that is not strict spoils the whole document. -/
lemma text_refused {l : Lexeme} {ls : List Lexeme} (begins : lexemes (.ofString x ++ .ofString tail) = l :: ls)
    (loose : l.isStrict = false) : replay? (.ofString (text x)) = none := by
  have split : Text.ofString (text x) = Symbol.char '\x7b' :: Symbol.char '\x22' :: (quoted (Text.ofString "x") ++
      Symbol.char '\x22' :: Symbol.char ':' :: ([Symbol.char ' '] ++ (Text.ofString x ++ Text.ofString tail))) := by
    simp [text, Text.ofString, Text.ofChars, quoted, quote]
  have member : l ∈ lexemes (.ofString (text x)) := by
    rw [split, lexemes_mark rfl, lexemes_text (.quoted (by decide +kernel)), lexemes_mark rfl,
      lexemes_blanks blanks_space,
      begins]
    simp
  have refused : readStrict (.ofString (text x)) = none := by
    refine Option.eq_none_iff_forall_ne_some.2 fun v document => ?_
    exact absurd ((readStrict_eq_some_iff.1 document).2.1 l member) (by simp [loose])
  rw [split] at refused ⊢
  rw [replay?_brace, readDocument, refused]
  rfl

end

/-- Half of a surrogate pair, escaped on its own. -/
def half : String := "\"\\ud800\""

lemma half_spells : Spells false (.ofString half) (.value (.string [.ofCode 0xD800])) := by
  have apart : ¬BeginsLow [] := by simp [BeginsLow, codeEscape]
  have quotes : Quotes (codeEscape (.char 'd') (.char '8') (.char '0') (.char '0') ++ []) [.ofCode 0xD800] :=
    .half rfl (.inl rfl) (fun _ => apart) .nothing
  have spelled : Spells false _ (.value (.string [.ofCode 0xD800])) :=
    .text quotes fun strict => absurd strict Bool.false_ne_true
  exact spelled.of_eq (by decide +kernel)

lemma half_refused : replay? (.ofString (text half)) = none := by decide +kernel

/-- A number with one half behind its point and ones in front of it. -/
def ones (n : ℕ) : String := String.ofList (List.replicate n '1' ++ ['.', '5'])

section
variable (n : ℕ)

lemma ofString_ones : Text.ofString (ones n) =
    sign false ++ (List.replicate n (Symbol.char '1') ++ ([Symbol.char '.', Symbol.char '5'] ++ [])) := by
  simp [ones, Text.ofString, Text.ofChars, sign]

lemma digits_ones : Digits (List.replicate n (.char '1')) (List.replicate n 1) := by
  induction n with
  | zero => exact .nil
  | succ n ih => exact .cons rfl ih

lemma isWhole_ones (given : n ≠ 0) : IsWhole (List.replicate n 1) := by
  obtain ⟨n, rfl⟩ := Nat.exists_eq_succ_of_ne_zero given
  simp [IsWhole, List.replicate_succ]

lemma fraction_half : Fraction [.char '.', .char '5'] [5] := .point (.cons rfl .nil) (by simp)

def number : Binary64 := .ofDecimal false (Digit.number 10 (List.replicate n 1 ++ [5])) (-1)

lemma ones_spells (given : n ≠ 0) : Spells false (.ofString (ones n)) (.value (.float (number n))) := by
  have short : false = true → (List.replicate n 1).length ≤ Digit.maxDigits := nofun
  have spelled := Spells.float false (digits_ones n) (isWhole_ones n given) short fraction_half .nothing (by simp)
  exact spelled.of_eq (ofString_ones n)

/-- Too many digits before its point make a number spoil the whole document. -/
lemma ones_refused (long : Digit.maxDigits < n) : replay? (.ofString (text (ones n))) = none := by
  have whole := isWhole_ones n (by omega)
  have ends : Ends (.ofString tail) := by simp [Ends, tail, Text.ofString, Text.ofChars]
  have split : Text.ofString (ones n) ++ Text.ofString tail = sign false ++
      (List.replicate n (Symbol.char '1') ++ ([Symbol.char '.', Symbol.char '5'] ++ ([] ++ Text.ofString tail))) := by
    rw [ofString_ones]
    simp
  have read := readScalar_number false (digits_ones n) whole.1
    ([Symbol.char '.', Symbol.char '5'] ++ ([] ++ Text.ofString tail))
  rw [readNumber_float _ false (digits_ones n) whole fraction_half .nothing (by simp) ends] at read
  have begins := lexemes_scalar (beginsScalar_number false (digits_ones n) whole.1 _) read
  have count := wholeDigits_number (.scalar (.float (number n))) false (digits_ones n) whole
    (noDigit_of_marked fraction_half .nothing ends).1
  rw [← split] at begins
  rw [← split, List.length_replicate] at count
  refine text_refused begins ?_
  exact decide_eq_false (Nat.not_le.2 (long.trans_eq count.symm))

end

def site : PeerSite := ⟨"", "", "", "", ""⟩

end Embedding

/-- The peer site with another description. -/
def PeerSite.describedAs (site : PeerSite) (description : String) : PeerSite := { site with description }

lemma brace_notMem_ofString {p : String} (h : '\x7b' ∉ p.toList) : .char '\x7b' ∉ Text.ofString p := by
  simpa [Text.ofString, Text.ofChars] using h

/-- The replay that a peer site tells about depends on the document in its description alone. A text in front of the
first brace does not matter, and there is none without a brace. Every document that writes a replay, with whatever
other members and with blanks around it, is told as this replay; an object with anything but blanks behind it is not
told. No description is left out: it tells about a replay exactly if the text from its first brace on is a document
of one. -/
theorem replay_details_embedded (site : PeerSite) :
    (∀ p s : String, '\x7b' ∉ p.toList → (site.describedAs (p ++ s)).replay? = (site.describedAs s).replay?) ∧
      (∀ p : String, '\x7b' ∉ p.toList → (site.describedAs p).replay? = none) ∧
      (∀ (s : String) (v : Json) (r : Replay), IsDocument (.ofString s) v → r.Written v →
        (site.describedAs s).replay? = some r) ∧
      (∀ (s : String) (u junk : Text) (ms : List (Text × Json)), Text.ofString s = u ++ junk →
        Spells false u (.value (.object ms)) → ¬Blanks junk → (site.describedAs s).replay? = none) ∧
      ∀ (s : String) (r : Replay), (site.describedAs s).replay? = some r ↔
        ∃ p document, Text.ofString s = p ++ .char '\x7b' :: document ∧ .char '\x7b' ∉ p ∧
          ∃ v, readStrict (.char '\x7b' :: document) = some v ∧ Replay.form.read v = .ok r := by
  refine ⟨fun p s plain => ?_, fun p plain => replay?_plain (brace_notMem_ofString plain),
    fun s v r document written => replay?_of_isDocument document written,
    fun s u junk ms split spelled trailing => ?_,
    fun s r => replay?_eq_some_iff⟩
  · change replay? (.ofString (p ++ s)) = replay? (.ofString s)
    rw [Text.ofString_append, replay?_append (brace_notMem_ofString plain)]
  · change replay? (.ofString s) = none
    rw [split, replay?_trailing spelled trailing]

theorem replay_details_embedded_sample :
    '\x7b' ∉ "replaying, ".toList ∧ IsDocument (.ofString (Embedding.text "[]")) (Embedding.value (.array [])) ∧
      Embedding.replay.Written (Embedding.value (.array [])) ∧ ¬Blanks [.char '\x7d'] ∧
      (Embedding.site.describedAs ("replaying, " ++ Embedding.text "[]")).replay? = some Embedding.replay ∧
      (Embedding.site.describedAs "replaying, ").replay? = none ∧
      (Embedding.site.describedAs (Embedding.text "[]" ++ "\x7d")).replay? = none := by
  obtain ⟨prefixed, plain, told, trailing, -⟩ := replay_details_embedded Embedding.site
  have empty : Spells true (.ofString "[]") (.value (.array [])) :=
    (Spells.emptyArray blanks_nil).of_eq (by decide +kernel)
  have spelled := Embedding.text_spells empty
  have document := spelled.bare.isDocument (Embedding.value_within (by simp [Within]))
  have written := Embedding.value_written (.array [])
  have noBrace : '\x7b' ∉ "replaying, ".toList := by decide +kernel
  have junk : ¬Blanks [.char '\x7d'] := by simp [Blanks, isBlank]
  exact ⟨noBrace, document, written, junk, (prefixed _ _ noBrace).trans (told _ _ _ document written),
    plain _ noBrace, trailing _ _ _ _ (Text.ofString_append _ _) spelled.loose junk⟩

/-- What the strict reading of documents refuses in any member: texts that leave half of a surrogate pair alone, and
numbers with too many digits before their point. Either object is spelled as it should be and writes the replay. -/
theorem odd_members_not_told :
    (Spells false (.ofString (Embedding.text Embedding.half)) (.spaced (Embedding.value (.string [.ofCode 0xD800]))) ∧
      Json.Within maxNesting (Embedding.value (.string [.ofCode 0xD800])) ∧
      Embedding.replay.Written (Embedding.value (.string [.ofCode 0xD800])) ∧
      (Embedding.site.describedAs (Embedding.text Embedding.half)).replay? = none) ∧
    Spells false (.ofString (Embedding.text (Embedding.ones 4301)))
        (.spaced (Embedding.value (.float (Embedding.number 4301)))) ∧
      Json.Within maxNesting (Embedding.value (.float (Embedding.number 4301))) ∧
      Embedding.replay.Written (Embedding.value (.float (Embedding.number 4301))) ∧
      (Embedding.site.describedAs (Embedding.text (Embedding.ones 4301))).replay? = none :=
  ⟨⟨(Embedding.text_spells Embedding.half_spells).bare, Embedding.value_within trivial, Embedding.value_written _,
      Embedding.half_refused⟩,
    (Embedding.text_spells (Embedding.ones_spells 4301 (by decide))).bare, Embedding.value_within trivial,
    Embedding.value_written _, Embedding.ones_refused 4301 (by decide)⟩

end Status
end ReplicaWatch
