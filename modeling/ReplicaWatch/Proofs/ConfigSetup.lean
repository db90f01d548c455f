import Mathlib
import ReplicaWatch.CephConfig
import ReplicaWatch.Proofs.Files.Making

/-! Setting up the configuration directory. Main statements: whether it succeeds or fails, it only adds directories
on the way to its root and at most two files, and doing it again changes nothing and comes to the same. -/
namespace ReplicaWatch.CephConfig

open Files

variable {t t' t'' : Tree} {p : Path} {l : Location} {root text : String} {e : SystemFault}

/-! ### The two files -/

/-- Where there is no file, none can be made, or one is made with its text. -/
lemma create_cases (nowhere : ∀ l, t.locate p ≠ .ok l) (text : String) :
    (∃ e, create t p text = (.error e, t)) ∨
      ∃ t' l, create t p text = (.ok (), t') ∧ t.Puts t' p l (.file configMode text) := by
  obtain ⟨e, touched⟩ | ⟨l, located, -⟩ | ⟨parent, name, free, touched⟩ := t.touch_cases p configMode
  · exact .inl ⟨e, by simp only [create, touched]⟩
  · exact absurd located (nowhere l)
  · exact .inr ⟨_, _, by simp only [create, touched, Tree.write_added free], Tree.puts_file free configMode text⟩

/-- The keyring cannot be made, or it is there, or it is made; what was logged does not matter. -/
lemma ensureKeyring_cases (t : Tree) (root : Path) :
    (∃ e, ∀ logged, ensureKeyring t root logged = ⟨.error e, t, logged⟩) ∨
      ∃ t', (∀ logged, ensureKeyring t root logged = ⟨.ok (configPath root).text, t', logged⟩) ∧
        (t' = t ∧ (∃ l, t.locate (keyringPath root) = .ok l) ∨
          ∃ l, t.Puts t' (keyringPath root) l (.file keyringMode "")) := by
  obtain ⟨e, touched⟩ | ⟨l, located, touched⟩ | ⟨parent, name, free, touched⟩ :=
    t.touch_cases (keyringPath root) keyringMode
  · exact .inl ⟨failed (keyringPath root) e, fun logged => by simp only [ensureKeyring, touched]⟩
  · exact .inr ⟨t, fun logged => by simp only [ensureKeyring, touched], .inl ⟨rfl, l, located⟩⟩
  · exact .inr ⟨_, fun logged => by simp only [ensureKeyring, touched],
      .inr ⟨_, Tree.puts_file free keyringMode ""⟩⟩

/-- What is logged when the configuration file is made. -/
def wrote (root : Path) : String := s!"Wrote Ceph config to {(configPath root).text}"

/-- The files cannot be made, or only the keyring is left to be made, at once or after the configuration file. -/
lemma ensureFiles_cases (t : Tree) (root : Path) :
    (∃ e, ensureFiles t root = ⟨.error e, t, []⟩) ∨
      ((∃ l, t.locate (configPath root) = .ok l) ∧ ensureFiles t root = ensureKeyring t root []) ∨
      ∃ t' l, t.Puts t' (configPath root) l (.file configMode content) ∧
        ensureFiles t root = ensureKeyring t' root [wrote root] := by
  rcases there : t.leadsSomewhere (configPath root) with e | _ | _
  · exact .inl ⟨.system e, by simp only [ensureFiles, there]⟩
  · have nowhere (l : Location) : t.locate (configPath root) ≠ .ok l := fun located => by
      simp [Tree.leadsSomewhere_iff.mpr ⟨l, located⟩] at there
    obtain ⟨e, unmade⟩ | ⟨t', l, made, puts⟩ := create_cases nowhere content
    · exact .inl ⟨failed (configPath root) e, by simp only [ensureFiles, there, unmade]⟩
    · exact .inr (.inr ⟨t', l, puts, by simp only [ensureFiles, there, made]; rfl⟩)
  · exact .inr (.inl ⟨Tree.leadsSomewhere_iff.mp there, by simp only [ensureFiles, there]⟩)

lemma ensure_of_unmade (hroot : ¬root.toList.contains '\x00')
    (h : t.ensureDirectories (Path.ofString root) = (.error e, t')) :
    ensure t root = ⟨.error (failed (Path.ofString root) e), t', []⟩ := by
  simp only [ensure, if_neg hroot, h]

lemma ensure_of_made (hroot : ¬root.toList.contains '\x00')
    (h : t.ensureDirectories (Path.ofString root) = (.ok (), t')) :
    ensure t root = ensureFiles t' (Path.ofString root) := by
  simp only [ensure, if_neg hroot, h]

/-- The root is no path, or its directories cannot all be made, or the files are made in it. -/
lemma ensure_cases (t : Tree) (root : String) :
    root.toList.contains '\x00' ∧ ensure t root = ⟨.error (.value .zeroByte), t, []⟩ ∨
      ¬root.toList.contains '\x00' ∧
        ((∃ e t', t.ensureDirectories (Path.ofString root) = (.error e, t') ∧
            ensure t root = ⟨.error (failed (Path.ofString root) e), t', []⟩) ∨
          ∃ t', t.ensureDirectories (Path.ofString root) = (.ok (), t') ∧
            ensure t root = ensureFiles t' (Path.ofString root)) := by
  by_cases hroot : root.toList.contains '\x00'
  · exact .inl ⟨hroot, if_pos hroot⟩
  · rcases made : t.ensureDirectories (Path.ofString root) with ⟨e | _, t'⟩
    · exact .inr ⟨hroot, .inl ⟨e, t', rfl, ensure_of_unmade hroot made⟩⟩
    · exact .inr ⟨hroot, .inr ⟨t', rfl, ensure_of_made hroot made⟩⟩

/-! ### Doing it again -/

/-- A second call comes to what the first came to and changes nothing. -/
inductive Repeats : Setting → Setting → Prop
  | done {path : String} {t : Tree} {logged : List String} : Repeats ⟨.ok path, t, logged⟩ ⟨.ok path, t, []⟩
  | failed {e e' : Failure} {t : Tree} {logged : List String} : Repeats ⟨.error e, t, logged⟩ ⟨.error e', t, []⟩

/-- With the configuration file there, only the keyring matters. -/
lemma ensureFiles_of_config (h : t.locate (configPath p) = .ok l) : ensureFiles t p = ensureKeyring t p [] := by
  simp only [ensureFiles, Tree.leadsSomewhere_iff.mpr ⟨l, h⟩]

lemma ensureKeyring_again (config : t.locate (configPath p) = .ok l) (logged : List String) :
    t.Extends (ensureKeyring t p logged).tree ∧
      Repeats (ensureKeyring t p logged) (ensureFiles (ensureKeyring t p logged).tree p) := by
  obtain ⟨e, failed⟩ | ⟨t', done, made⟩ := ensureKeyring_cases t p
  · simp only [failed, ensureFiles_of_config config]
    exact ⟨.refl t, .failed⟩
  · obtain ⟨grown, l, keyring⟩ : t.Extends t' ∧ ∃ l, t'.locate (keyringPath p) = .ok l := by
      obtain ⟨rfl, there⟩ | ⟨l, puts⟩ := made
      · exact ⟨.refl t', there⟩
      · exact ⟨puts.extends, l, puts.reached⟩
    have again : ensureKeyring t' p [] = ⟨.ok (configPath p).text, t', []⟩ := by
      simp only [ensureKeyring, Tree.touch_of_located keyring]
    rw [done, ensureFiles_of_config (Tree.locate_of_extends grown config), again]
    exact ⟨grown, .done⟩

lemma ensureFiles_again (t : Tree) (p : Path) :
    t.Extends (ensureFiles t p).tree ∧ Repeats (ensureFiles t p) (ensureFiles (ensureFiles t p).tree p) := by
  obtain ⟨e, failed⟩ | ⟨⟨l, config⟩, rest⟩ | ⟨t', l, puts, rest⟩ := ensureFiles_cases t p
  · simp only [failed]
    exact ⟨.refl t, .failed⟩
  · rw [rest]
    exact ensureKeyring_again config []
  · rw [rest]
    obtain ⟨grown, again⟩ := ensureKeyring_again puts.reached [wrote p]
    exact ⟨puts.extends.trans grown, again⟩

lemma ensure_again (t : Tree) (root : String) : Repeats (ensure t root) (ensure (ensure t root).tree root) := by
  obtain ⟨hroot, h⟩ | ⟨hroot, ⟨e, t', stopped, h⟩ | ⟨t', made, h⟩⟩ := ensure_cases t root
  · rw [h, ensure, if_pos hroot]
    exact .failed
  · obtain ⟨e, again⟩ := Tree.ensureDirectories_error (fun name h => (Path.named_ofString root name h).1) stopped
    rw [h, ensure_of_unmade hroot again]
    exact .failed
  · obtain ⟨grown, again⟩ := ensureFiles_again t' (Path.ofString root)
    have directory := Tree.leadsToDirectory_of_extends grown (Tree.leadsToDirectory_of_ensureDirectories made)
    rw [h, ensure_of_made hroot (Tree.ensureDirectories_of_directory directory)]
    exact again

/-- The tree after a number of calls. -/
def after (root : String) (n : ℕ) (t : Tree) : Tree := (fun t => (ensure t root).tree)^[n] t

lemma Repeats.tree_eq {s s' : Setting} (h : Repeats s s') : s'.tree = s.tree := by
  cases h <;> rfl

lemma after_succ (root : String) (t : Tree) (n : ℕ) : after root (n + 1) t = (ensure t root).tree := by
  induction n with
  | zero => rfl
  | succ n ih =>
    rw [after, Function.iterate_succ_apply']
    rw [after] at ih
    rw [ih, (ensure_again t root).tree_eq]

/-- However often it is done, the tree is as after the first time; once it succeeded it goes on to succeed, with the
same path and nothing logged, and once it failed it goes on to fail. -/
theorem ensure_idempotent (root : String) (t : Tree) (n : ℕ) :
    after root (n + 1) t = (ensure t root).tree ∧
      (∀ path, (ensure t root).result = .ok path →
        (ensure (after root (n + 1) t) root).result = .ok path ∧ (ensure (after root (n + 1) t) root).logged = []) ∧
      ∀ e, (ensure t root).result = .error e → ∃ e, (ensure (after root (n + 1) t) root).result = .error e := by
  rw [after_succ]
  have again := ensure_again t root
  generalize ensure t root = first at again
  generalize ensure first.tree root = second at again
  cases again with
  | done => simp
  | failed => simp

/-! ### What is added -/

/-- What may be at a location where nothing was: a directory on the way to the root, or one of the two files. -/
inductive Made (t : Tree) (root : Path) : Location → Node → Prop
  | directory {l : Location} {parts : List String} (above : parts <+: root.parts)
      (leads : t.locate ⟨root.lead, parts⟩ = .ok l) : Made t root l (.directory 0o755)
  | config {l : Location} (leads : t.locate (configPath root) = .ok l) : Made t root l (.file 0o600 content)
  | keyring {l : Location} (leads : t.locate (keyringPath root) = .ok l) : Made t root l (.file 0o644 "")

/-- A tree keeps all that another has, and has no more than may be made. -/
structure OnlyAdds (t t' : Tree) (root : Path) : Prop where
  kept : t.Extends t'
  made : ∀ l node, t.node? l = none → t'.node? l = some node → Made t' root l node
  within : t.Rooted → t'.Rooted

/-- What there is once the root is set up. -/
structure SetUp (t : Tree) (root : Path) (s : Setting) : Prop where
  directory : ∃ l, s.tree.locate root = .ok l ∧ s.tree.isDirectory l = true
  config : ∃ l node, s.tree.locate (configPath root) = .ok l ∧ s.tree.node? l = some node
  keyring : ∃ l node, s.tree.locate (keyringPath root) = .ok l ∧ s.tree.node? l = some node
  straight : ".." ∉ root.parts → ∃ l, s.tree.locate (configPath root) = .ok l ∧
    ((∃ node, t.node? l = some node) ∧ s.logged = [] ∨
      t.node? l = none ∧ s.tree.node? l = some (.file 0o600 content) ∧ ∃ line, s.logged = [line])

lemma Made.mono {node : Node} (grown : t.Extends t') (h : Made t p l node) : Made t' p l node := by
  cases h with
  | directory above leads => exact .directory above (Tree.locate_of_extends grown leads)
  | config leads => exact .config (Tree.locate_of_extends grown leads)
  | keyring leads => exact .keyring (Tree.locate_of_extends grown leads)

lemma OnlyAdds.refl (t : Tree) (p : Path) : OnlyAdds t t p where
  kept := .refl t
  made l node free there := by simp [free] at there
  within := id

lemma OnlyAdds.trans (h : OnlyAdds t t' p) (h' : OnlyAdds t' t'' p) : OnlyAdds t t'' p where
  kept := h.kept.trans h'.kept
  made l node free there := by
    cases mid : t'.node? l with
    | none => exact h'.made l node mid there
    | some node' =>
      obtain rfl : node' = node := by simpa [there] using (h'.kept l node' mid).symm
      exact (h.made l node' free mid).mono h'.kept
  within := h'.within ∘ h.within

lemma OnlyAdds.of_raised (h : t.Raised t' p) : OnlyAdds t t' p where
  kept := h.grown
  made l node free there := by
    rcases h.only l node there with old | ⟨rfl, parts, above, leads⟩
    · simp [free] at old
    · exact .directory above leads
  within := h.within

lemma OnlyAdds.of_puts {path : Path} {node : Node} (made : ∀ l, t'.locate path = .ok l → Made t' p l node)
    (h : t.Puts t' path l node) : OnlyAdds t t' p where
  kept := h.extends
  made k other free there := by
    rcases h.only there with old | ⟨rfl, rfl⟩
    · simp [free] at old
    · exact made k h.reached
  within := h.within

/-- The keyring is there when it could be made. -/
lemma ensureKeyring_adds (t : Tree) (p : Path) (logged : List String) :
    OnlyAdds t (ensureKeyring t p logged).tree p ∧ (ensureKeyring t p logged).logged = logged ∧
      ∀ path, (ensureKeyring t p logged).result = .ok path →
        ∃ l, (ensureKeyring t p logged).tree.locate (keyringPath p) = .ok l := by
  obtain ⟨e, failed⟩ | ⟨t', done, made⟩ := ensureKeyring_cases t p
  · rw [failed]
    exact ⟨.refl t p, rfl, nofun⟩
  · rw [done]
    obtain ⟨rfl, there⟩ | ⟨l, puts⟩ := made
    · exact ⟨.refl t' p, rfl, fun _ _ => there⟩
    · exact ⟨.of_puts (fun _ => .keyring) puts, rfl, fun _ _ => ⟨l, puts.reached⟩⟩

/-- Whether or not the files can be made, nothing else is; and where the configuration file is in the end. -/
lemma ensureFiles_adds (t : Tree) (p : Path) :
    OnlyAdds t (ensureFiles t p).tree p ∧ ∀ path, (ensureFiles t p).result = .ok path →
      (∃ l, (ensureFiles t p).tree.locate (keyringPath p) = .ok l) ∧
        ∃ l, (ensureFiles t p).tree.locate (configPath p) = .ok l ∧
          (t.locate (configPath p) = .ok l ∧ (ensureFiles t p).logged = [] ∨
            t.node? l = none ∧ (ensureFiles t p).tree.node? l = some (.file 0o600 content) ∧
              ∃ line, (ensureFiles t p).logged = [line]) := by
  obtain ⟨e, failed⟩ | ⟨⟨l, config⟩, rest⟩ | ⟨t', l, puts, rest⟩ := ensureFiles_cases t p
  · rw [failed]
    exact ⟨.refl t p, nofun⟩
  · rw [rest]
    obtain ⟨adds, logged, keyring⟩ := ensureKeyring_adds t p []
    exact ⟨adds, fun path h => ⟨keyring path h, l, Tree.locate_of_extends adds.kept config, .inl ⟨config, logged⟩⟩⟩
  · rw [rest]
    obtain ⟨adds, logged, keyring⟩ := ensureKeyring_adds t' p [wrote p]
    have config : OnlyAdds t t' p := .of_puts (fun _ => .config) puts
    exact ⟨config.trans adds, fun path h => ⟨keyring path h, l, Tree.locate_of_extends adds.kept puts.reached,
      .inr ⟨puts.free, adds.kept l _ puts.there, wrote p, logged⟩⟩⟩

lemma OnlyAdds.few_files (h : OnlyAdds t t' p) :
    ∃ a b, ∀ l mode text, t.node? l = none → t'.node? l = some (.file mode text) → l = a ∨ l = b := by
  refine ⟨(t'.locate (configPath p)).toOption.getD [], (t'.locate (keyringPath p)).toOption.getD [],
    fun l mode text free there => ?_⟩
  cases h.made l _ free there with
  | config leads => simp [leads, Except.toOption]
  | keyring leads => simp [leads, Except.toOption]

lemma ensure_adds (t : Tree) (root : String) : OnlyAdds t (ensure t root).tree (Path.ofString root) := by
  obtain ⟨-, h⟩ | ⟨-, ⟨e, t', stopped, h⟩ | ⟨t', made, h⟩⟩ := ensure_cases t root
  · rw [h]
    exact .refl t _
  · rw [h]
    exact .of_raised (Tree.ensureDirectories_raised stopped)
  · rw [h]
    exact .trans (.of_raised (Tree.ensureDirectories_raised made)) (ensureFiles_adds t' _).1

/-- A configuration file that a straight root has before the files are made was there before its directories were
made. -/
lemma config_there_before (rooted : t.Rooted) (straight : ".." ∉ (Path.ofString root).parts)
    (made : t.ensureDirectories (Path.ofString root) = (.ok (), t'))
    (located : t'.locate (configPath (Path.ofString root)) = .ok l) : ∃ node, t.node? l = some node := by
  have named : ∀ name ∈ (Path.ofString root).parts, name ≠ "" ∧ name ≠ "." ∧ name ≠ ".." := fun name h =>
    ⟨(Path.named_ofString root name h).1, (Path.named_ofString root name h).2, fun up => straight (up ▸ h)⟩
  obtain rfl | ⟨k, new, -, empty⟩ := Tree.ensureDirectories_bare rooted named made
  · exact Tree.node?_of_locate rooted located
  · exact absurd located (Tree.not_locate_child new empty (by decide))

lemma ensure_setUp (rooted : t.Rooted) {path : String} (h : (ensure t root).result = .ok path) :
    SetUp t (Path.ofString root) (ensure t root) := by
  have adds := ensure_adds t root
  obtain ⟨-, run⟩ | ⟨-, ⟨e, t', stopped, run⟩ | ⟨t', made, run⟩⟩ := ensure_cases t root
  · simp [run] at h
  · simp [run] at h
  rw [run] at h adds ⊢
  obtain ⟨filled, files⟩ := ensureFiles_adds t' (Path.ofString root)
  obtain ⟨⟨k, keyring⟩, l, config, origin⟩ := files path h
  have directory := Tree.leadsToDirectory_of_ensureDirectories made
  have grown : t.Extends t' := (Tree.ensureDirectories_raised made).grown
  obtain ⟨node, there⟩ := Tree.node?_of_locate (adds.within rooted) config
  obtain ⟨other, there'⟩ := Tree.node?_of_locate (adds.within rooted) keyring
  exact {
    directory := Tree.leadsToDirectory_iff.mp (Tree.leadsToDirectory_of_extends filled.kept directory)
    config := ⟨l, node, config, there⟩
    keyring := ⟨k, other, keyring, there'⟩
    straight := fun straight => by
      refine ⟨l, config, ?_⟩
      obtain ⟨before, silent⟩ | ⟨free, new, logged⟩ := origin
      · exact .inl ⟨config_there_before rooted straight made before, silent⟩
      · exact .inr ⟨grown.free free, new, logged⟩ }

/-- Setting up a root only adds to a tree, whether it succeeds or fails: directories on the way to the root and at
most two files. When it succeeds, the root and both files are there. -/
theorem ensure_only_adds (rooted : t.Rooted) (root : String) :
    OnlyAdds t (ensure t root).tree (Path.ofString root) ∧
      (∃ a b, ∀ l mode text, t.node? l = none →
        (ensure t root).tree.node? l = some (.file mode text) → l = a ∨ l = b) ∧
      ∀ path, (ensure t root).result = .ok path → SetUp t (Path.ofString root) (ensure t root) :=
  ⟨ensure_adds t root, (ensure_adds t root).few_files, fun _ => ensure_setUp rooted⟩

/-- A directory with a keyring of its own, whose configuration file is a link to a file that is not there. -/
def linked : Tree :=
  ⟨[(["etc"], .directory 0o750), (["etc", "ceph.conf"], .link "site.conf"),
    (["etc", "keyring"], .file 0o600 "[client.rbd]")]⟩

theorem linked_only_adds :
    linked.Rooted ∧ OnlyAdds linked (ensure linked "etc").tree (Path.ofString "etc") ∧
      (ensure linked "etc").result = .ok "etc/ceph.conf" ∧
        SetUp linked (Path.ofString "etc") (ensure linked "etc") := by
  have rooted : linked.Rooted := Tree.rooted_of_entries (by decide)
  have returned : (ensure linked "etc").result = .ok "etc/ceph.conf" := by cbv
  obtain ⟨adds, -, setUp⟩ := ensure_only_adds rooted "etc"
  exact ⟨rooted, adds, returned, setUp _ returned⟩

end ReplicaWatch.CephConfig
