import Mathlib.Data.Nat.Digits.Defs
import StaticSite.Proofs.Markup.EndTag
import StaticSite.Proofs.Site.Instant
import StaticSite.Proofs.Site.Publication
import StaticSite.Proofs.Site.SitemapText

/-!
Contract: where the time of compilation shows in the files of a site.

Owns:
- the times that a sitemap tells, and what it says apart from them;
- the text of a time in UTC, digit by digit;
- the law that the time of compilation shows in the times of the sitemap and nowhere else.

Does not own: conversion to UTC (see `StaticSite.Proofs.Site.Instant`), and how the text of a
sitemap is cut into pieces (see `StaticSite.Proofs.Site.SitemapText`).
-/

namespace StaticSite.Site

open StaticSite.Markup StaticSite.Page

/-! ## The text of a time -/

/-- The last digits of a number, as many as asked for. -/
def lastDigits : Nat → Nat → List Char
  | 0, _ => []
  | count + 1, value => lastDigits count (value / 10) ++ [Nat.digitChar (value % 10)]

/-- The text of a time in UTC with four digits for the year and two for every other part. -/
def UtcTime.isoText (time : UtcTime) : String :=
  String.ofList
    (lastDigits 4 time.date.year ++ '-' :: lastDigits 2 time.date.month ++
      '-' :: lastDigits 2 time.date.day ++ 'T' :: lastDigits 2 time.hour ++
      ':' :: lastDigits 2 time.minute ++ ':' :: lastDigits 2 time.second ++ ['Z'])

/-- A number with just so many digits consists of its last digits. -/
theorem toDigits_eq_lastDigits {count value : Nat} (least : 10 ^ count ≤ value)
    (most : value < 10 ^ (count + 1)) : Nat.toDigits 10 value = lastDigits (count + 1) value := by
  induction count generalizing value with
  | zero =>
      have oneDigit : value < 10 := by simpa using most
      rw [Nat.toDigits_of_lt_base oneDigit, lastDigits, lastDigits, Nat.mod_eq_of_lt oneDigit,
        List.nil_append]
  | succ count inductionHypothesis =>
      have leastBefore : 10 ^ count ≤ value / 10 := by
        rw [Nat.le_div_iff_mul_le (by decide), ← Nat.pow_succ]
        exact least
      have mostBefore : value / 10 < 10 ^ (count + 1) := by
        rw [Nat.div_lt_iff_lt_mul (by decide), ← Nat.pow_succ]
        exact most
      have twoDigits : 10 ≤ value := by
        have := Nat.one_le_pow count 10 (by decide)
        omega
      rw [Nat.toDigits_of_base_le (by decide) twoDigits, inductionHypothesis leastBefore mostBefore]
      rfl

theorem toList_twoDigits (value : Nat) (fits : value < 100) :
    (twoDigits value).toList = lastDigits 2 value := by
  rw [twoDigits, String.toList_append, Number.toList_toString]
  by_cases oneDigit : value < 10
  · have zero : "0".toList = ['0'] := by decide
    rw [if_pos oneDigit, zero, Nat.toDigits_of_lt_base oneDigit, lastDigits, lastDigits, lastDigits,
      Nat.div_eq_of_lt oneDigit, Nat.mod_eq_of_lt oneDigit]
    rfl
  · rw [if_neg oneDigit, String.toList_empty, List.nil_append]
    exact @toDigits_eq_lastDigits 1 value (by omega) fits

/-- From the year 1000 on, the text of a time has a fixed number of digits for each part. -/
theorem text_eq_isoText {time : UtcTime} (proper : time.IsProper)
    (fourDigits : 1000 ≤ time.date.year) : time.text = time.isoText := by
  obtain ⟨valid, hour, minute, second⟩ := proper
  have monthLength : daysInMonth time.date.year time.date.month ≤ 31 :=
    daysInMonth_le time.date.year time.date.month
  have year : (toString time.date.year).toList = lastDigits 4 time.date.year := by
    have toLast : time.date.year < 10 ^ 4 := Nat.lt_succ_of_le valid.toLastYear
    rw [Number.toList_toString, toDigits_eq_lastDigits fourDigits toLast]
  have month := toList_twoDigits time.date.month (by have := valid.toLastMonth; omega)
  have day := toList_twoDigits time.date.day (by have := valid.toLastDay; omega)
  have hours := toList_twoDigits time.hour (by omega)
  have minutes := toList_twoDigits time.minute (by omega)
  have seconds := toList_twoDigits time.second (by omega)
  apply String.toList_inj.mp
  rw [UtcTime.text, UtcTime.isoText, String.toList_ofList]
  simp only [String.toList_append, year, month, day, hours, minutes, seconds, List.append_assoc]
  rfl

/-- The text of a time holds digits, two marks and two letters. -/
theorem less_not_mem_text (time : UtcTime) : '<' ∉ time.text.toList := by
  have number (value : Nat) : '<' ∉ (toString value).toList := by
    rw [Number.toList_toString]
    intro member
    exact absurd (Number.isNumeralCharacter_of_mem_toDigits member) (by decide)
  have two (value : Nat) : '<' ∉ (twoDigits value).toList := by
    rw [twoDigits, String.toList_append, List.mem_append, not_or]
    refine ⟨?_, number value⟩
    split <;> decide
  have marks : '<' ∉ "-".toList ∧ '<' ∉ "T".toList ∧ '<' ∉ ":".toList ∧ '<' ∉ "Z".toList := by
    decide
  simp only [UtcTime.text, String.toList_append, List.mem_append, number, two, marks, or_self,
    not_false_eq_true]

/-! ## The times of a sitemap -/

/-- What a piece of a sitemap tells a time behind. -/
def lastmodStart : List Char :=
  tagPiece lastmodTag []

def lastmodsOf (sitemap : String) : List String :=
  ((Text.pieces '<' sitemap.toList).filter lastmodStart.isPrefixOf).map fun piece =>
    String.ofList (piece.drop lastmodStart.length)

/-- A sitemap, cut at its left angle brackets, without the times that it tells. -/
def withoutLastmods (sitemap : String) : List (List Char) :=
  (Text.pieces '<' sitemap.toList).map fun piece =>
    if lastmodStart.isPrefixOf piece then lastmodStart else piece

theorem isPrefixOf_tagPiece {tag : List Char} (plain : '>' ∉ tag) (behind : List Char) :
    lastmodStart.isPrefixOf (tagPiece tag behind) = (tag == lastmodTag) := by
  rw [Bool.eq_iff_iff, List.isPrefixOf_iff_prefix, beq_iff_eq, List.prefix_iff_exists_append_eq]
  constructor
  · rintro ⟨rest, isPiece⟩
    rw [lastmodStart, tagPiece, tagPiece, List.append_assoc, List.singleton_append] at isPiece
    have sameStart := congrArg throughBracket isPiece
    rw [throughBracket_append (by decide), throughBracket_append plain] at sameStart
    exact (List.append_cancel_right sameStart).symm
  · rintro rfl
    exact ⟨behind, by rw [lastmodStart, tagPiece, tagPiece, List.append_assoc,
      List.singleton_append]⟩

def SitemapEntry.timeless (entry : SitemapEntry) : SitemapEntry :=
  { entry with lastmod := "" }

/-- A piece of a sitemap without the time that it tells. -/
def hideTime (piece : List Char) : List Char :=
  if lastmodStart.isPrefixOf piece then lastmodStart else piece

theorem isPrefixOf_lastmodPiece (behind : List Char) :
    lastmodStart.isPrefixOf (tagPiece lastmodTag behind) = true := by
  rw [isPrefixOf_tagPiece (by decide), beq_self_eq_true]

/-- The pieces of the element of an entry tell its time, and nothing else is hidden with it. -/
theorem times_entryPieces (entry : SitemapEntry) :
    (entryPieces entry).filter lastmodStart.isPrefixOf =
        [tagPiece lastmodTag entry.lastmod.toList] ∧
      (entryPieces entry).map hideTime = entryPieces entry.timeless := by
  have blank : lastmodStart.isPrefixOf (indentation 2).toList = false := by decide
  have url (behind) : lastmodStart.isPrefixOf (tagPiece "url".toList behind) = false :=
    isPrefixOf_tagPiece (by decide) behind
  have loc (behind) : lastmodStart.isPrefixOf (tagPiece "loc".toList behind) = false :=
    isPrefixOf_tagPiece (by decide) behind
  have locEnd (behind) : lastmodStart.isPrefixOf (tagPiece ('/' :: "loc".toList) behind) = false :=
    isPrefixOf_tagPiece (by decide) behind
  have timeEnd (behind) : lastmodStart.isPrefixOf (tagPiece ('/' :: lastmodTag) behind) = false :=
    isPrefixOf_tagPiece (by decide) behind
  have priority (behind) : lastmodStart.isPrefixOf (tagPiece "priority".toList behind) = false :=
    isPrefixOf_tagPiece (by decide) behind
  have priorityEnd (behind) :
      lastmodStart.isPrefixOf (tagPiece ('/' :: "priority".toList) behind) = false :=
    isPrefixOf_tagPiece (by decide) behind
  have timeless : tagPiece lastmodTag "".toList = lastmodStart := by
    rw [String.toList_empty, lastmodStart]
  constructor
  · simp only [entryPieces, List.filter_cons, List.filter_nil, blank, url, loc, locEnd, timeEnd,
      priority, priorityEnd, isPrefixOf_lastmodPiece, Bool.false_eq_true, if_false, if_true]
  · simp only [entryPieces, List.map_cons, List.map_nil, hideTime, blank, url, loc, locEnd, timeEnd,
      priority, priorityEnd, isPrefixOf_lastmodPiece, Bool.false_eq_true, if_false, if_true,
      SitemapEntry.timeless, timeless]

/-- The pieces of some entries and of the end of a sitemap begin with blanks, tell the times of the
entries, and say the rest also without them. -/
theorem pieces_entriesText {entries : List SitemapEntry} (plain : ∀ entry ∈ entries, entry.IsPlain) :
    ∃ first others, Text.pieces '<' (entriesText entries) = first :: others ∧
      lastmodStart.isPrefixOf first = false ∧
      others.filter lastmodStart.isPrefixOf =
        entries.map (fun entry => tagPiece lastmodTag entry.lastmod.toList) ∧
      Text.pieces '<' (entriesText (entries.map SitemapEntry.timeless)) =
        first :: others.map hideTime := by
  induction entries with
  | nil =>
      have ending : Text.pieces '<' (entriesText []) =
          [[], tagPiece ('/' :: "urlset".toList) ['\n']] := by
        decide
      have noTime : lastmodStart.isPrefixOf (tagPiece ('/' :: "urlset".toList) ['\n']) = false := by
        decide
      refine ⟨_, _, ending, rfl, ?_, ?_⟩
      · rw [List.filter_singleton, noTime]
        rfl
      · rw [List.map_nil, ending, List.map_singleton, hideTime, noTime]
        rfl
  | cons entry entries inductionHypothesis =>
      obtain ⟨entryPlain, othersPlain⟩ := List.forall_mem_cons.mp plain
      obtain ⟨first, others, isRest, firstPlain, times, timeless⟩ := inductionHypothesis othersPlain
      obtain ⟨ofEntry, hidden⟩ := times_entryPieces entry
      have timelessPlain : entry.timeless.IsPlain :=
        ⟨(by decide : '<' ∉ "".toList), entryPlain.2⟩
      have noTime : lastmodStart.isPrefixOf (tagPiece ('/' :: "url".toList) ('\n' :: first)) =
          false :=
        isPrefixOf_tagPiece (by decide) _
      have blank : lastmodStart.isPrefixOf (indentation 2).toList = false := by decide
      have timelessText := pieces_entriesText_cons timelessPlain timeless
      -- The first piece, the blanks ahead of the element, neither tells a time nor is hidden.
      have isPieces : entryPieces entry = (indentation 2).toList :: (entryPieces entry).tail := rfl
      rw [isPieces, List.filter_cons, blank, if_neg Bool.false_ne_true] at ofEntry
      rw [isPieces, List.map_cons, hideTime, blank, if_neg Bool.false_ne_true] at hidden
      refine ⟨(indentation 2).toList,
        (entryPieces entry).tail ++ tagPiece ('/' :: "url".toList) ('\n' :: first) :: others,
        pieces_entriesText_cons entryPlain isRest, blank, ?_, ?_⟩
      · rw [List.filter_append, ofEntry, List.filter_cons, noTime, times, List.map_cons]
        rfl
      · rw [List.map_cons, timelessText, ← hidden, List.map_append, List.map_cons, hideTime, noTime]
        rfl

/-- A sitemap whose entries hold no brackets tells their times, and says the rest also without
them. -/
theorem read_sitemapText {entries : List SitemapEntry} (plain : ∀ entry ∈ entries, entry.IsPlain) :
    lastmodsOf (sitemapText entries) = entries.map (·.lastmod) ∧
      withoutLastmods (sitemapText entries) =
        Text.pieces '<' (sitemapText (entries.map SitemapEntry.timeless)).toList := by
  obtain ⟨first, others, isRest, firstPlain, times, timeless⟩ := pieces_entriesText plain
  have headTimeless : ∀ piece ∈ [[], declarationPiece],
      lastmodStart.isPrefixOf piece = false := by
    have declaration : declarationPiece = _ := String.toList_ofList
    rw [declaration]
    decide
  have noTime : lastmodStart.isPrefixOf (tagPiece sitemapTag ('\n' :: first)) = false := by
    have isTag : sitemapTag = _ := String.toList_ofList
    rw [isPrefixOf_tagPiece headPieces_plain.2.2, isTag]
    rfl
  constructor
  · have noneInHead : [[], declarationPiece].filter lastmodStart.isPrefixOf = [] := by
      refine List.filter_eq_nil_iff.mpr fun piece member isTime => ?_
      rw [headTimeless piece member] at isTime
      cases isTime
    have dropped (behind : List Char) :
        (tagPiece lastmodTag behind).drop lastmodStart.length = behind := rfl
    rw [lastmodsOf, pieces_sitemapText isRest, List.filter_append, noneInHead, List.filter_cons,
      noTime, if_neg Bool.false_ne_true, times, List.nil_append, List.map_map]
    simp only [Function.comp_def, dropped, String.ofList_toList]
  · have sameHead : [[], declarationPiece].map hideTime = [[], declarationPiece] := by
      refine List.map_congr_left (fun piece member => ?_) |>.trans (List.map_id _)
      rw [hideTime, headTimeless piece member, if_neg Bool.false_ne_true]
      rfl
    rw [withoutLastmods, pieces_sitemapText isRest, pieces_sitemapText timeless]
    change List.map hideTime _ = _
    rw [List.map_append, sameHead, List.map_cons, hideTime, noTime, if_neg Bool.false_ne_true]

/-! ## The files of a site at two times -/

theorem isPlain_sitemapEntry (options : Options) (time : UtcTime) (page : CompiledPage) :
    (sitemapEntry options time page).IsPlain :=
  isPlain_of_lastmod (less_not_mem_text time)

theorem lastmodsOf_sitemapOf (options : Options) (time : UtcTime) (pages : List CompiledPage) :
    lastmodsOf (sitemapText (sitemapOf options time pages)) =
      List.replicate pages.length time.text := by
  have plain : ∀ entry ∈ sitemapOf options time pages, entry.IsPlain := by
    intro entry member
    obtain ⟨page, _, rfl⟩ := List.mem_map.mp member
    exact isPlain_sitemapEntry options time page
  rw [(read_sitemapText plain).1, sitemapOf, List.map_map]
  exact List.map_const

/-- The sitemaps of a site at two times say the same apart from these times. -/
theorem withoutLastmods_sitemapOf (options : Options) (time otherTime : UtcTime)
    (pages : List CompiledPage) :
    withoutLastmods (sitemapText (sitemapOf options time pages)) =
      withoutLastmods (sitemapText (sitemapOf options otherTime pages)) := by
  have plain (time : UtcTime) : ∀ entry ∈ sitemapOf options time pages, entry.IsPlain := by
    intro entry member
    obtain ⟨page, _, rfl⟩ := List.mem_map.mp member
    exact isPlain_sitemapEntry options time page
  have timeless : (sitemapOf options time pages).map SitemapEntry.timeless =
      (sitemapOf options otherTime pages).map SitemapEntry.timeless := by
    simp only [sitemapOf, List.map_map, Function.comp_def, SitemapEntry.timeless, sitemapEntry]
  rw [(read_sitemapText (plain time)).2, (read_sitemapText (plain otherTime)).2, timeless]

section

variable (website : Website) (options : Options)

/-- The files that are written before the sitemap, whatever the time. -/
def filesBeforeSitemap : List File :=
  let pages := (pagesOf website).map fun page => Page.compile page website options
  pages.map documentFile ++
    [ ⟨"css/global.css", globalStyle website, "text/css"⟩,
      ⟨"js/global.js", hydrationScript website.name options.apiUrl, "application/javascript"⟩ ] ++
    pages.flatMap (fun page => [styleFile page, scriptFile page]) ++
    [⟨"manifest.json", manifestText (manifestOf website options), "application/json"⟩]

def sitemapFile (time : UtcTime) : File :=
  ⟨"sitemap.xml", sitemapText (sitemapOf options time
    ((pagesOf website).map fun page => Page.compile page website options)), "application/xml"⟩

/-- The files that are written after the sitemap, whatever the time. -/
def filesAfterSitemap : List File :=
  [ ⟨"robots.txt", robotsText options, "text/plain"⟩,
    ⟨"sw.js", serviceWorker website.id, "application/javascript"⟩ ]

theorem writtenFiles_compileAt (time : UtcTime) :
    writtenFiles (compileAt website options time) =
      filesBeforeSitemap website options ++
        sitemapFile website options time :: filesAfterSitemap website options := by
  rw [writtenFiles, filesBeforeSitemap, List.append_assoc _ _ (_ :: _)]
  rfl

theorem names_filesOf (time otherTime : UtcTime) :
    (filesOf (compileAt website options time)).map Prod.fst =
      (filesOf (compileAt website options otherTime)).map Prod.fst := by
  apply Association.names_ofBindings_congr
  rw [writtenFiles_compileAt, writtenFiles_compileAt]
  simp only [List.map_append, List.map_cons]
  rfl

/-- Every file but the sitemap is the same at any time. -/
theorem lookup_filesOf_of_ne {path : String} (differs : path ≠ "sitemap.xml")
    (time otherTime : UtcTime) :
    (filesOf (compileAt website options time)).lookup path =
      (filesOf (compileAt website options otherTime)).lookup path := by
  have notSitemap (time : UtcTime) :
      ((sitemapFile website options time).path == path) = false :=
    beq_false_of_ne differs.symm
  rw [lookup_filesOf, lookup_filesOf, writtenFiles_compileAt, writtenFiles_compileAt,
    List.filter_append, List.filter_append, List.filter_cons, List.filter_cons, notSitemap,
    notSitemap, if_neg Bool.false_ne_true, if_neg Bool.false_ne_true]

theorem lookup_sitemap (time : UtcTime) :
    (filesOf (compileAt website options time)).lookup "sitemap.xml" =
      some (sitemapFile website options time) := by
  refine @lookup_filesOf_of_mem _ _ _ (sitemapFile website options time) ?_
  exact (perm_otherFiles _).mem_iff.mpr
    (List.mem_append_left _ (.tail _ (.tail _ (.tail _ (.head _)))))

theorem compile_ok_iff {time : ZonedTime} (proper : time.IsProper) :
    (∃ site, compile website options time = .ok site) ↔ time.InCalendar := by
  rw [← proper.exists_toUtc?_iff, compile]
  cases time.toUtc? with
  | some utc => exact ⟨fun _ => ⟨utc, rfl⟩, fun _ => ⟨_, rfl⟩⟩
  | none =>
      constructor
      · rintro ⟨_, compiled⟩
        cases compiled
      · rintro ⟨_, found⟩
        cases found

end

/-- Whether a sitemap of some pages tells, once for each, the date and the time in UTC of the second
in which a time lies, provided that the year has four digits. -/
def TellsTime (sitemap : String) (pageCount : Nat) (time : ZonedTime) : Prop :=
  ∃ utc : UtcTime, utc.IsProper ∧ (utc.seconds : Int) = time.instant / secondLength ∧
    (1000 ≤ utc.date.year → lastmodsOf sitemap = List.replicate pageCount utc.isoText)

theorem tellsTime_sitemapOf {time : ZonedTime} {utc : UtcTime} (proper : time.IsProper)
    (isUtc : time.toUtc? = some utc) (options : Options) (pages : List CompiledPage) :
    TellsTime (sitemapText (sitemapOf options utc pages)) pages.length time := by
  obtain ⟨utcProper, sameSecond⟩ := proper.toUtc?_eq_some_iff.mp isUtc
  refine ⟨utc, utcProper, sameSecond, fun fourDigits => ?_⟩
  rw [lastmodsOf_sitemapOf, text_eq_isoText utcProper fourDigits]

/-- The time at which a website is compiled shows in the times of its sitemap and nowhere else. At
any two times in the calendar the files have the same names in the same order; all but the sitemap
are the same; the two sitemaps say the same apart from their times; each of these is the time in
UTC of the second in which the compilation lies; and at one instant all files are the same,
whatever the offsets. -/
theorem compile_time_confined (website : Website) (options : Options)
    {time otherTime : ZonedTime} (proper : time.IsProper) (otherProper : otherTime.IsProper)
    (inCalendar : time.InCalendar) (otherInCalendar : otherTime.InCalendar) :
    ∃ site otherSite, compile website options time = .ok site ∧
      compile website options otherTime = .ok otherSite ∧
      (filesOf site).map Prod.fst = (filesOf otherSite).map Prod.fst ∧
      (∀ path ≠ "sitemap.xml", (filesOf site).lookup path = (filesOf otherSite).lookup path) ∧
      (∃ sitemap otherSitemap,
        (filesOf site).lookup "sitemap.xml" =
          some ⟨"sitemap.xml", sitemap, "application/xml"⟩ ∧
        (filesOf otherSite).lookup "sitemap.xml" =
          some ⟨"sitemap.xml", otherSitemap, "application/xml"⟩ ∧
        withoutLastmods sitemap = withoutLastmods otherSitemap ∧
        TellsTime sitemap site.pages.length time ∧
        TellsTime otherSitemap otherSite.pages.length otherTime) ∧
      (time.instant = otherTime.instant → filesOf site = filesOf otherSite) := by
  obtain ⟨utc, isUtc⟩ := proper.exists_toUtc?_iff.mpr inCalendar
  obtain ⟨otherUtc, isOtherUtc⟩ := otherProper.exists_toUtc?_iff.mpr otherInCalendar
  refine ⟨compileAt website options utc, compileAt website options otherUtc, ?_, ?_,
    names_filesOf website options utc otherUtc,
    fun path differs => lookup_filesOf_of_ne website options differs utc otherUtc,
    ⟨_, _, lookup_sitemap website options utc, lookup_sitemap website options otherUtc,
      withoutLastmods_sitemapOf options utc otherUtc _, ?_, ?_⟩, ?_⟩
  · rw [compile, isUtc]
  · rw [compile, isOtherUtc]
  · exact tellsTime_sitemapOf proper isUtc options _
  · exact tellsTime_sitemapOf otherProper isOtherUtc options _
  · intro sameInstant
    obtain ⟨utcProper, sameSecond⟩ := proper.toUtc?_eq_some_iff.mp isUtc
    rw [sameInstant] at sameSecond
    have sameUtc := otherProper.toUtc?_eq_some_iff.mpr ⟨utcProper, sameSecond⟩
    rw [isOtherUtc] at sameUtc
    rw [Option.some.inj sameUtc]

/-- Half past midnight on the first of March, five and a half hours ahead of UTC. -/
def eastOfUtc : ZonedTime := ⟨⟨2024, 3, 1⟩, 0, 30, 15, 330, 250000, 0⟩

/-- The same instant five hours behind UTC. -/
def westOfUtc : ZonedTime := ⟨⟨2024, 2, 29⟩, 14, 0, 15, -300, 250000, 0⟩

/-- On both sides of UTC, a site with one page tells the same time on a leap day. -/
theorem compile_time_confined_leap_day :
    ∃ site otherSite, compile (websiteOfSlugs [("a", "about")]) {} eastOfUtc = .ok site ∧
      compile (websiteOfSlugs [("a", "about")]) {} westOfUtc = .ok otherSite ∧
      filesOf site = filesOf otherSite ∧
      ∃ sitemap, (filesOf site).lookup "sitemap.xml" =
          some ⟨"sitemap.xml", sitemap, "application/xml"⟩ ∧
        lastmodsOf sitemap = ["2024-02-29T19:00:15Z"] := by
  have east : eastOfUtc.IsProper :=
    ⟨⟨by decide, by decide, by decide, by decide, by decide, by decide⟩, by decide, by decide,
      by decide, by decide, by decide, by decide, by decide⟩
  have west : westOfUtc.IsProper :=
    ⟨⟨by decide, by decide, by decide, by decide, by decide, by decide⟩, by decide, by decide,
      by decide, by decide, by decide, by decide, by decide⟩
  have eastInUtc : eastOfUtc.toUtc? = some ⟨⟨2024, 2, 29⟩, 19, 0, 15⟩ := by decide
  have westInUtc : westOfUtc.toUtc? = some ⟨⟨2024, 2, 29⟩, 19, 0, 15⟩ := by decide
  have sameInstant : eastOfUtc.instant = westOfUtc.instant := by
    rw [ZonedTime.instant, ZonedTime.instant, Date.dayNumber, Date.dayNumber, daysBeforeYear_eq,
      daysBeforeYear_eq]
    decide +kernel
  obtain ⟨site, otherSite, compiled, compiledOther, -, -, ⟨sitemap, -, isSitemap, -, -, tells, -⟩,
    same⟩ := compile_time_confined (websiteOfSlugs [("a", "about")]) {} east west
      (east.exists_toUtc?_iff.mp ⟨_, eastInUtc⟩) (west.exists_toUtc?_iff.mp ⟨_, westInUtc⟩)
  refine ⟨site, otherSite, compiled, compiledOther, same sameInstant, sitemap, isSitemap, ?_⟩
  obtain ⟨utc, utcProper, sameSecond, isText⟩ := tells
  have isUtc := east.toUtc?_eq_some_iff.mpr ⟨utcProper, sameSecond⟩
  rw [eastInUtc] at isUtc
  obtain rfl := Option.some.inj isUtc
  obtain ⟨_, rfl⟩ := eq_compileAt_of_compile compiled
  have onePage : (pagesOf (websiteOfSlugs [("a", "about")])).length = 1 := by decide +kernel
  rw [isText (by decide), compileAt, List.length_map, onePage]
  decide +kernel

end StaticSite.Site
