import JavaHomes.Proofs.LineEndings
import JavaHomes.Proofs.Probe
import JavaHomes.Proofs.VersionText

/-!
The two streams of a launcher. What is read from an output depends on its lines alone, whatever
their endings are. So the lines of the standard error count as they stand behind those of the
standard output, as long as the standard output ends its last line; when it does not, the two lines
at the seam are read as one.
-/

namespace JavaHomes

open Text (Closed feedsOnly lines)

namespace Version

theorem core_feedsOnly (s : List Char) : core (feedsOnly s) = feedsOnly (core s) := by
  rw [core, Text.trim, Text.trimBy_feedsOnly (by decide), Text.trimBy_feedsOnly (by decide),
    Text.takeWhile_feedsOnly (by decide), core, Text.trim]

/-- Line endings inside a version text make no difference. -/
theorem ofChars?_feedsOnly (s : List Char) : ofChars? (feedsOnly s) = ofChars? s := by
  have hcomponents : (Text.splitBy isSeparator (core (feedsOnly s))).map Text.Decimal.readWord? =
      (Text.splitBy isSeparator (core s)).map Text.Decimal.readWord? := by
    rw [core_feedsOnly, Text.splitBy_feedsOnly (by decide) (by decide), List.map_map]
    exact List.map_congr_left fun w _ => Text.readWord?_feedsOnly w
  rw [ofChars?, ofChars?, numbers?, numbers?, hcomponents]

end Version

namespace Launcher

section

variable {s t quoted : List Char} {c : Char}

/-! ### Banners -/

/-- A text starts with a banner: a word, the mark, and a version in quotes. -/
def Announces (s quoted : List Char) : Prop :=
  ∃ word rest, word ≠ [] ∧ (∀ c ∈ word, Text.isBlank c = false) ∧ quoted ≠ [] ∧ '"' ∉ quoted ∧
    s = word ++ (versionMark ++ (quoted ++ '"' :: rest))

theorem quotedVersion?_eq_some_iff : quotedVersion? s = some quoted ↔ Announces s quoted := by
  constructor
  · intro h
    rw [quotedVersion?] at h
    split at h
    · cases h
    · rename_i behind hmark
      simp only [Option.ite_none_left_eq_some, Option.some.injEq, Bool.or_eq_true, not_or,
        List.isEmpty_iff, beq_iff_eq] at h
      obtain ⟨⟨⟨hne, hquoted⟩, hclosing⟩, rfl⟩ := h
      obtain ⟨d, rest, hd, hbehind⟩ := Text.exists_eq_takeWhile_append hclosing
      obtain rfl : d = '"' := bne_eq_false_iff_eq.mp hd
      refine ⟨_, rest, hne, fun c hc => ?_, hquoted, fun hc => ?_, ?_⟩
      · simpa using List.mem_takeWhile_imp hc
      · exact absurd (List.mem_takeWhile_imp hc) (by decide)
      · rw [← hbehind, List.isPrefixOf?_eq_some_iff_append_eq.mp hmark]
        exact (List.prefix_iff_eq_append.mp (List.takeWhile_prefix _)).symm
  · rintro ⟨word, rest, hne, hword, hquoted, hquote, rfl⟩
    have htake : (word ++ (versionMark ++ (quoted ++ '"' :: rest))).takeWhile
        (fun c => !Text.isBlank c) = word :=
      Text.takeWhile_append_cons (c := ' ') (by simpa using hword) (by decide)
    have hquotedTake : (quoted ++ '"' :: rest).takeWhile (· != '"') = quoted :=
      Text.takeWhile_append_cons (fun c hc => bne_iff_ne.mpr fun heq => hquote (heq ▸ hc))
        (by decide)
    have hmark : versionMark.isPrefixOf? (versionMark ++ (quoted ++ '"' :: rest)) =
        some (quoted ++ '"' :: rest) := List.isPrefixOf?_eq_some_iff_append_eq.mpr rfl
    simp only [quotedVersion?, htake, List.drop_left, hmark, hquotedTake]
    rw [if_neg]
    simp [hne, hquoted]

theorem feed_not_mem_of_word {word : List Char} (hword : ∀ c ∈ word, Text.isBlank c = false) :
    '\n' ∉ word := fun hfeed => absurd (hword _ hfeed) (by decide)

theorem announces_feedsOnly (h : Announces s quoted) :
    Announces (feedsOnly s) (feedsOnly quoted) := by
  obtain ⟨word, rest, hne, hword, hquoted, hquote, rfl⟩ := h
  refine ⟨word, feedsOnly rest, hne, hword,
    fun hnil => hquoted (Text.feedsOnly_eq_nil_iff.mp hnil),
    fun hc => hquote (Text.mem_of_mem_feedsOnly hc), ?_⟩
  have hfirst : (versionMark ++ (quoted ++ '"' :: rest)).head? ≠ some '\n' := by
    rw [List.head?_append_of_ne_nil versionMark (by decide)]
    decide
  have hlast : versionMark.getLast? ≠ some '\r' := by decide
  have hmark : feedsOnly versionMark = versionMark := Text.feedsOnly_of_not_mem (by decide)
  rw [Text.feedsOnly_append (.inr hfirst), Text.feedsOnly_of_not_mem (feed_not_mem_of_word hword),
    Text.feedsOnly_append (.inl hlast), hmark, Text.feedsOnly_append (.inr (by simp)),
    Text.feedsOnly_cons (by simp)]

theorem exists_announces_of_feedsOnly (h : Announces (feedsOnly s) quoted) :
    ∃ quoted', Announces s quoted' ∧ feedsOnly quoted' = quoted := by
  obtain ⟨word, rest, hne, hword, hquoted, hquote, hs⟩ := h
  obtain ⟨word', s₁, rfl, hword', hs₁⟩ := Text.exists_append_of_feedsOnly hs
  obtain rfl := Text.feedsOnly_eq_of_not_mem hword' (feed_not_mem_of_word hword)
  obtain ⟨mark, s₂, rfl, hmark, hs₂⟩ := Text.exists_append_of_feedsOnly hs₁
  obtain rfl := Text.feedsOnly_eq_of_not_mem hmark (by decide)
  obtain ⟨quoted, s₃, rfl, rfl, hs₃⟩ := Text.exists_append_of_feedsOnly hs₂
  obtain ⟨quote, rest', rfl, hquote', -⟩ := Text.exists_append_of_feedsOnly (x := ['"']) hs₃
  obtain rfl := Text.feedsOnly_eq_of_not_mem hquote' (by decide)
  refine ⟨quoted, ⟨word', rest', hne, hword, ?_, fun hc => ?_, rfl⟩, rfl⟩
  · rintro rfl
    exact hquoted rfl
  · exact hquote (Text.mem_feedsOnly (by decide) hc)

theorem quotedVersion?_feedsOnly (s : List Char) :
    quotedVersion? (feedsOnly s) = (quotedVersion? s).map feedsOnly := by
  ext quoted
  rw [quotedVersion?_eq_some_iff, Option.map_eq_some_iff]
  simp only [quotedVersion?_eq_some_iff]
  constructor
  · exact exists_announces_of_feedsOnly
  · rintro ⟨quoted', h, rfl⟩
    exact announces_feedsOnly h

theorem quotedVersion?_append_feed (s : List Char) :
    quotedVersion? (s ++ ['\n']) = quotedVersion? s := by
  ext quoted
  rw [quotedVersion?_eq_some_iff, quotedVersion?_eq_some_iff]
  constructor
  · rintro ⟨word, rest, hne, hword, hquoted, hquote, heq⟩
    -- the text ends with a line feed, so the closing quote is not its last character
    rcases List.eq_nil_or_concat rest with rfl | ⟨rest, d, rfl⟩
    · have hlast := congrArg List.getLast? heq
      simp at hlast
    · have heq : s ++ ['\n'] = (word ++ (versionMark ++ (quoted ++ '"' :: rest))) ++ [d] := by
        simpa using heq
      exact ⟨word, rest, hne, hword, hquoted, hquote, (List.append_inj' heq rfl).1⟩
  · rintro ⟨word, rest, hne, hword, hquoted, hquote, rfl⟩
    exact ⟨word, rest ++ ['\n'], hne, hword, hquoted, hquote, by simp⟩

/-- No banner starts with white space. -/
theorem quotedVersion?_of_isBlank (hc : Text.isBlank c = true) (s : List Char) :
    quotedVersion? (c :: s) = none := by
  refine Option.eq_none_iff_forall_ne_some.mpr fun quoted h => ?_
  obtain ⟨word, rest, hne, hword, -, -, heq⟩ := quotedVersion?_eq_some_iff.mp h
  obtain ⟨d, word, rfl⟩ := List.exists_cons_of_ne_nil hne
  have hd := hword d List.mem_cons_self
  rw [← (List.cons.inj heq).1, hc] at hd
  cases hd

theorem bannerVersion?_cons (atLineStart : Bool) (c : Char) (s : List Char) :
    bannerVersion? atLineStart (c :: s) =
      (if atLineStart then quotedVersion? (c :: s) else none).or
        (bannerVersion? (c == '\n') s) := by
  rw [bannerVersion?]
  cases if atLineStart then quotedVersion? (c :: s) else none <;> rfl

theorem bannerVersion?_of_isBlank (hc : Text.isBlank c = true) (atLineStart : Bool)
    (s : List Char) : bannerVersion? atLineStart (c :: s) = bannerVersion? (c == '\n') s := by
  rw [bannerVersion?_cons, quotedVersion?_of_isBlank hc, ite_self, Option.none_or]

theorem bannerVersion?_feedsOnly (atLineStart : Bool) (s : List Char) :
    bannerVersion? atLineStart (feedsOnly s) = (bannerVersion? atLineStart s).map feedsOnly := by
  fun_induction feedsOnly s generalizing atLineStart with
  | case1 s ih =>
    rw [bannerVersion?_of_isBlank (by decide), bannerVersion?_of_isBlank (by decide),
      bannerVersion?_of_isBlank (by decide)]
    exact ih _
  | case2 c s hreturn ih =>
    have hquoted := quotedVersion?_feedsOnly (c :: s)
    rw [Text.feedsOnly_cons hreturn] at hquoted
    rw [bannerVersion?_cons, bannerVersion?_cons, ih, hquoted, Option.map_or]
    cases atLineStart <;> rfl
  | case3 => rfl

theorem bannerVersion?_append_feed (atLineStart : Bool) (s : List Char) :
    bannerVersion? atLineStart (s ++ ['\n']) = bannerVersion? atLineStart s := by
  induction s generalizing atLineStart with
  | nil => exact bannerVersion?_of_isBlank (by decide) atLineStart []
  | cons c s ih =>
    rw [List.cons_append, bannerVersion?_cons, ih, ← List.cons_append, quotedVersion?_append_feed,
      bannerVersion?_cons]

/-! ### Reports -/

/-- A report depends on the lines of an output alone. -/
theorem Report.ofOutput?_congr (table : VendorTable) (h : lines s = lines t) :
    Report.ofOutput? table s = Report.ofOutput? table t := by
  have hproperties : properties s = properties t := by rw [properties, properties, h]
  have hbanner : banner s = banner t := by rw [banner, banner, h]
  have hannounced : (bannerVersion? true s).bind Version.ofChars? =
      (bannerVersion? true t).bind Version.ofChars? := by
    refine Text.eq_of_lines_eq (f := fun s => (bannerVersion? true s).bind Version.ofChars?)
      (fun s => ?_) (fun s => ?_) h
    · rw [bannerVersion?_feedsOnly, Option.bind_map]
      exact congrArg _ (funext Version.ofChars?_feedsOnly)
    · rw [bannerVersion?_append_feed]
  have hmark : Text.contains "64-Bit".toList s = Text.contains "64-Bit".toList t := by
    refine Text.eq_of_lines_eq (fun s => ?_) (fun s => ?_) h
    · rw [Bool.eq_iff_iff, Text.contains_iff (by decide), Text.contains_iff (by decide),
        Text.infix_feedsOnly_iff (by decide) (by decide) (by decide)]
    · rw [Bool.eq_iff_iff, Text.contains_iff (by decide), Text.contains_iff (by decide),
        Text.infix_append_feed_iff (by decide) (by decide)]
  simp only [Report.ofOutput?, version?, vendor?, wordSize, hproperties, hbanner, hannounced, hmark]

end

/-! ### Probes -/

variable {limit : Duration} {t : FileTree} {c : Candidate} {stdout stderr : List UInt8}

/-- The launcher of a candidate is started and exits within the limit, after it has written these
octets to its two streams. -/
inductive Exits (t : FileTree) (limit : Duration) (c : Candidate) (stdout stderr : List UInt8) :
    Prop
  | intro {file : File} {millis : Nat} :
      t.file? c.launcher = some file → file.executable = true →
      file.program arguments = .output stdout stderr millis →
      (Duration.ofMillis millis).nanos ≤ limit.nanos → Exits t limit c stdout stderr

/-- What a probe comes to with what could be read, if anything. -/
def verdict (c : Candidate) : Option Report → Outcome
  | none => .failed (.unparsableOutput c.launcher)
  | some r => .found ⟨c.home, r.vendor, r.version, r.bitness, c.isCurrent⟩

theorem Exits.probe_eq (h : Exits t limit c stdout stderr) (vendors : VendorTable) (calls : Nat) :
    probe limit vendors calls t c =
      verdict c (Report.ofOutput? vendors (combined stdout stderr)) := by
  obtain ⟨hfile, hexecutable, hresponse, hintime⟩ := h
  rw [probe, hfile]
  simp only [hexecutable, if_true]
  rw [hresponse, judge, if_neg (Nat.not_lt.mpr hintime)]
  cases Report.ofOutput? vendors (combined stdout stderr) <;> rfl

/-- A probe of a launcher that exits in time comes to what its output says. When the standard output
ends its last line, or nothing is written to the standard error, the output is any text that has
the lines of the standard output and then those of the standard error. In general, what stands in
the standard output behind a line ending is read as if the standard error started with it. -/
theorem probe_of_exits (h : Exits t limit c stdout stderr) (vendors : VendorTable) (calls : Nat)
    (text : List Char) :
    let out := Text.Utf8.decodeLossy stdout
    let err := Text.Utf8.decodeLossy stderr
    (Closed out ∨ err = [] → lines text = lines out ++ lines err →
      probe limit vendors calls t c = verdict c (Report.ofOutput? vendors text)) ∧
    (∀ closed rest, out = closed ++ rest → Closed closed →
      lines text = lines closed ++ lines (rest ++ err) →
      probe limit vendors calls t c = verdict c (Report.ofOutput? vendors text)) := by
  intro out err
  have hread : lines text = lines (out ++ err) →
      probe limit vendors calls t c = verdict c (Report.ofOutput? vendors text) := by
    intro hlines
    rw [h.probe_eq, Report.ofOutput?_congr vendors hlines]
    rfl
  constructor
  · rintro (hclosed | hempty) hlines
    · exact hread (by rw [hlines, Text.lines_append_of_closed hclosed])
    · exact hread (by rw [hlines, hempty, lines, List.append_nil, List.append_nil])
  · intro closed rest hout hclosed hlines
    exact hread (by rw [hlines, hout, List.append_assoc, Text.lines_append_of_closed hclosed])

/-- A launcher that writes these texts. -/
def writer (stdout stderr : String) : File where
  content := []
  executable := true
  program _ := .output (Text.Utf8.encode stdout) (Text.Utf8.encode stderr) 5

/-- A home with some launcher. -/
def homeWith (launcher : File) : FileTree where
  entries :=
    [(["jdk"], .directory), (["jdk", "bin"], .directory), (["jdk", "bin", "java"], .file launcher)]
  workingDirectory := ⟨"/"⟩

/-- That home as it is found on the search path. -/
def writerHome : Candidate :=
  ⟨⟨"/jdk"⟩, .searchPath⟩

theorem locate_homeWith (launcher : File) :
    (homeWith launcher).locate ⟨"/jdk/bin/java"⟩ = .ok ["jdk", "bin", "java"] := by
  simp +decide [FileTree.locate, FileTree.start, Path.pieces, Text.splitBy, FileTree.linkLimit,
    FileTree.walk_succ, FileTree.walkPieces, FileTree.hindrance?, FileTree.isDirectoryAt,
    FileTree.isSearchableAt, FileTree.entry?, FileTree.listed?, homeWith]

theorem exits_writer (stdout stderr : String) :
    Exits (homeWith (writer stdout stderr)) (.ofMillis 100) writerHome (Text.Utf8.encode stdout)
      (Text.Utf8.encode stderr) := by
  have hlauncher : Path.launcher ⟨"/jdk"⟩ = ⟨"/jdk/bin/java"⟩ := by decide
  have hfile : (homeWith (writer stdout stderr)).file? (Path.launcher ⟨"/jdk"⟩) =
      some (writer stdout stderr) := by
    rw [hlauncher, FileTree.file?, locate_homeWith]
    rfl
  exact .intro hfile rfl rfl (by decide)

/-- The lines of a dump of properties that tell vendor and version. -/
def dumpText : String :=
  "    java.vendor = V\n    java.version = 17.0.2\n"

theorem probe_of_exits_closed :
    Exits (homeWith (writer "Picked up options\n" dumpText)) (.ofMillis 100) writerHome
      (Text.Utf8.encode "Picked up options\n") (Text.Utf8.encode dumpText) ∧
    probe (.ofMillis 100) ⟨[]⟩ 0 (homeWith (writer "Picked up options\n" dumpText)) writerHome =
      .found ⟨⟨"/jdk"⟩, "V", ⟨17, 0, 2⟩, .bits32, false⟩ := by
  have h := exits_writer "Picked up options\n" dumpText
  have hclosed : Closed (Text.Utf8.decodeLossy (Text.Utf8.encode "Picked up options\n")) := by
    have hlast : (Text.Utf8.decodeLossy (Text.Utf8.encode "Picked up options\n")).getLast? =
        some '\n' := by decide +kernel
    intro c hc
    rw [hlast] at hc
    exact (Option.some.inj hc).symm
  have hlines : lines ("Picked up options\r\n" ++ dumpText).toList =
      lines (Text.Utf8.decodeLossy (Text.Utf8.encode "Picked up options\n")) ++
        lines (Text.Utf8.decodeLossy (Text.Utf8.encode dumpText)) := by decide +kernel
  have hreport : Report.ofOutput? ⟨[]⟩ ("Picked up options\r\n" ++ dumpText).toList =
      some ⟨"V", ⟨17, 0, 2⟩, .bits32⟩ := by decide +kernel
  refine ⟨h, ?_⟩
  rw [(probe_of_exits h ⟨[]⟩ 0 _).1 (.inl hclosed) hlines, hreport]
  rfl

/-- The same launcher without the line ending. -/
theorem probe_of_exits_unclosed :
    Exits (homeWith (writer "Picked up options" dumpText)) (.ofMillis 100) writerHome
      (Text.Utf8.encode "Picked up options") (Text.Utf8.encode dumpText) ∧
    lines ("Picked up options\n" ++ dumpText).toList =
      lines (Text.Utf8.decodeLossy (Text.Utf8.encode "Picked up options")) ++
        lines (Text.Utf8.decodeLossy (Text.Utf8.encode dumpText)) ∧
    verdict writerHome
        (Report.ofOutput? ⟨[]⟩ ("Picked up options\n" ++ dumpText).toList) =
      .found ⟨⟨"/jdk"⟩, "V", ⟨17, 0, 2⟩, .bits32, false⟩ ∧
    probe (.ofMillis 100) ⟨[]⟩ 0 (homeWith (writer "Picked up options" dumpText)) writerHome =
      .failed (.unparsableOutput ⟨"/jdk/bin/java"⟩) := by
  have h := exits_writer "Picked up options" dumpText
  refine ⟨h, by decide +kernel, by decide +kernel, ?_⟩
  have hreport : Report.ofOutput? ⟨[]⟩ (combined (Text.Utf8.encode "Picked up options")
      (Text.Utf8.encode dumpText)) = none := by decide +kernel
  rw [h.probe_eq, hreport]
  rfl

end Launcher

end JavaHomes
