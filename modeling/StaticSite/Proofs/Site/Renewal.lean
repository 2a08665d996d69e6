import StaticSite.Proofs.Page.InlineData
import StaticSite.Proofs.Site.HeadComment
import StaticSite.Proofs.Site.Publication
import StaticSite.Proofs.Text.Blank

/-!
Contract: what of a site that is published again reaches a browser that has its service worker.

Owns:
- what the files that the worker answers from its cache tell of a website and of the options;
- the law that the worker tells the id of the website and nothing else;
- the exact condition under which the worker changes with the files that it keeps.

Does not own: the paths under which these files stand (see `StaticSite.Proofs.Site.Publication`).
-/

namespace StaticSite.Site

open StaticSite.Page

/-! ## What the files that a worker keeps tell -/

/-- What the files that a service worker keeps are made from. -/
structure ShellSource where
  title : String
  description : String
  language : String
  backgroundColor : String
  themeColor : String
  apiUrl : String
  deriving DecidableEq

/-- What the files that the service worker of a website keeps are made from. -/
def shellSource (website : Website) (options : Options) : ShellSource :=
  { title := website.title
    description := Text.firstOf [website.description] ""
    language := website.languageOrDefault
    backgroundColor := options.backgroundColor
    themeColor := options.themeColor
    apiUrl := options.apiUrl }

section

variable {website other : Website} {options otherOptions : Options}

theorem globalStyle_congr (sameTitle : website.title = other.title) :
    globalStyle website = globalStyle other := by
  unfold globalStyle headComment
  change _ ++ Text.withoutCommentEnds website.title ++ _ ++ _ ++ _ =
    _ ++ Text.withoutCommentEnds other.title ++ _ ++ _ ++ _
  rw [sameTitle]

/-- The value of an inline text can be read off it. -/
theorem eq_of_inlineData_eq {text another : String}
    (same : inlineData (.text text) = inlineData (.text another)) : text = another := by
  have isRead (text : String) : Json.read (inlineData (.text text)) = .ok (.text text) :=
    read_inlineData (Json.isRegular_text text) nofun (Nat.zero_le _)
  have sameRead := isRead text
  rw [same, isRead another] at sameRead
  exact (Json.text.inj (Except.ok.inj sameRead)).symm

/-- With one title, the shared script files of two websites tell the addresses of their data. -/
theorem hydrationScript_eq_iff (sameTitle : website.title = other.title) :
    hydrationScript website.name options.apiUrl = hydrationScript other.name otherOptions.apiUrl ↔
      options.apiUrl = otherOptions.apiUrl := by
  have sameComment : headComment "Global JavaScript" website.name =
      headComment "Global JavaScript" other.name := by
    unfold headComment
    change _ ++ Text.withoutCommentEnds website.title ++ _ =
      _ ++ Text.withoutCommentEnds other.title ++ _
    rw [sameTitle]
  have stripped (options : Options) :
      Text.stripTrailing '/' options.apiUrl = options.apiUrl :=
    Text.stripTrailing_stripTrailing '/' _
  rw [hydrationScript_eq, hydrationScript_eq, sameComment, String.append_right_inj]
  constructor
  · intro sameBody
    simp only [hydrationBody, String.append_right_inj, String.append_left_inj, Text.endLines,
      List.map_cons, List.map_nil, String.join_cons] at sameBody
    have sameAddress := eq_of_inlineData_eq sameBody
    rwa [stripped, stripped] at sameAddress
  · intro sameAddress
    rw [sameAddress]

/-- A manifest tells the title, the description, the language and the colours. -/
theorem manifestText_eq_iff :
    manifestText (manifestOf website options) = manifestText (manifestOf other otherOptions) ↔
      website.title = other.title ∧
      Text.firstOf [website.description] "" = Text.firstOf [other.description] "" ∧
      website.languageOrDefault = other.languageOrDefault ∧
      options.backgroundColor = otherOptions.backgroundColor ∧
      options.themeColor = otherOptions.themeColor := by
  constructor
  · intro sameText
    have sameRead := read_manifestText website options
    rw [sameText, read_manifestText other otherOptions] at sameRead
    have sameManifest := Json.object.inj (Except.ok.inj sameRead)
    simp only [List.cons.injEq, Prod.mk.injEq, Json.text.injEq, true_and, and_true]
      at sameManifest
    obtain ⟨title, -, description, background, theme, language⟩ := sameManifest
    exact ⟨title.symm, description.symm, language.symm, background.symm, theme.symm⟩
  · rintro ⟨title, description, language, background, theme⟩
    rw [manifestOf, manifestOf, title, description, language, background, theme]

/-! ## What the worker tells -/

theorem quote_injective {text another : String}
    (same : Json.quote false text = Json.quote false another) : text = another := by
  have isRead (text : String) : Json.read (Json.quote false text) = .ok (.text text) := by
    have written : Json.write Json.indentedLayout (.text text) = Json.quote false text := by
      rw [Json.write, Json.writeAt, Json.indentedLayout, Json.plainLayout]
    rw [← written]
    exact Json.read_write_indentedLayout (Json.isRegular_text text) rfl (Nat.zero_le _)
  have sameRead := isRead text
  rw [same, isRead another] at sameRead
  exact (Json.text.inj (Except.ok.inj sameRead)).symm

theorem text_line_inj {line another : String} {code : List Script.Code}
    (same : Script.text (.line line :: code) = Script.text (.line another :: code)) :
    line = another := by
  simp only [Script.text, Script.codeLines, Script.Code.lines, List.singleton_append,
    Text.endLines, List.map_cons, String.join_cons, String.append_left_inj] at same
  exact same

/-- The service worker of a website tells its id and nothing else. -/
theorem serviceWorker_eq_iff {id otherId : String} :
    serviceWorker id = serviceWorker otherId ↔ id = otherId := by
  constructor
  · intro sameWorker
    have sameLine := text_line_inj sameWorker
    have sameName := (String.append_right_inj _).mp ((String.append_left_inj _).mp sameLine)
    exact (String.append_right_inj _).mp (quote_injective sameName)
  · intro sameId
    rw [sameId]

/-! ## Renewal -/

/-- The paths of the files that a service worker keeps. -/
def shellPaths : List String :=
  ["css/global.css", "js/global.js", "manifest.json"]

/-- Whether a browser that has the files of a site is told when it gets others: where a file that
the worker keeps differs, the worker differs too. -/
def RenewsShell (before after : List (String × File)) : Prop :=
  (∃ path ∈ shellPaths, before.lookup path ≠ after.lookup path) →
    before.lookup "sw.js" ≠ after.lookup "sw.js"

theorem lookup_fixedFile {time : UtcTime} {file : File}
    (member : file ∈ fixedFiles (compileAt website options time)) :
    (filesOf (compileAt website options time)).lookup file.path = some file :=
  lookup_filesOf_of_mem ((perm_otherFiles _).mem_iff.mpr (List.mem_append_left _ member))

theorem lookup_worker (time : UtcTime) :
    (filesOf (compileAt website options time)).lookup "sw.js" =
      some ⟨"sw.js", serviceWorker website.id, "application/javascript"⟩ :=
  lookup_fixedFile (.tail _ (.tail _ (.tail _ (.tail _ (.tail _ (.head _))))))

theorem lookup_worker_eq_iff (website other : Website) (options otherOptions : Options)
    (time otherTime : UtcTime) :
    (filesOf (compileAt website options time)).lookup "sw.js" =
        (filesOf (compileAt other otherOptions otherTime)).lookup "sw.js" ↔
      website.id = other.id := by
  rw [lookup_worker, lookup_worker, ← serviceWorker_eq_iff]
  simp only [Option.some.injEq, File.mk.injEq, true_and, and_true]

theorem lookup_shell_eq_iff (website other : Website) (options otherOptions : Options)
    (time otherTime : UtcTime) :
    (∀ path ∈ shellPaths, (filesOf (compileAt website options time)).lookup path =
        (filesOf (compileAt other otherOptions otherTime)).lookup path) ↔
      shellSource website options = shellSource other otherOptions := by
  have style (website : Website) (options : Options) (time : UtcTime) :
      (filesOf (compileAt website options time)).lookup "css/global.css" =
        some ⟨"css/global.css", globalStyle website, "text/css"⟩ :=
    lookup_fixedFile (.head _)
  have script (website : Website) (options : Options) (time : UtcTime) :
      (filesOf (compileAt website options time)).lookup "js/global.js" =
        some ⟨"js/global.js", hydrationScript website.name options.apiUrl,
          "application/javascript"⟩ :=
    lookup_fixedFile (.tail _ (.head _))
  have manifest (website : Website) (options : Options) (time : UtcTime) :
      (filesOf (compileAt website options time)).lookup "manifest.json" =
        some ⟨"manifest.json", manifestText (manifestOf website options), "application/json"⟩ :=
    lookup_fixedFile (.tail _ (.tail _ (.head _)))
  simp only [shellPaths, List.forall_mem_cons, List.not_mem_nil, false_implies, implies_true, style,
    script, manifest, Option.some.injEq, File.mk.injEq, true_and, and_true, manifestText_eq_iff,
    shellSource, ShellSource.mk.injEq]
  constructor
  · rintro ⟨-, sameScript, title, description, language, background, theme⟩
    exact ⟨title, description, language, background, theme,
      (hydrationScript_eq_iff title).mp sameScript⟩
  · rintro ⟨title, description, language, background, theme, address⟩
    exact ⟨globalStyle_congr title, (hydrationScript_eq_iff title).mpr address, title, description,
      language, background, theme⟩

end

/-- Two compiled sites have the same service worker exactly if their websites have the same id, and
the same files that a worker keeps exactly if these are made from the same. So the worker of a
website changes with the files that it keeps exactly if nothing changes that they are made from:
its title, description and language, the colours, and the address of its data. -/
theorem shell_renewed_iff {website other : Website} {options otherOptions : Options}
    {time otherTime : ZonedTime} {site otherSite : CompiledSite}
    (compiled : compile website options time = .ok site)
    (compiledOther : compile other otherOptions otherTime = .ok otherSite) :
    ((filesOf site).lookup "sw.js" = (filesOf otherSite).lookup "sw.js" ↔ website.id = other.id) ∧
    ((∀ path ∈ shellPaths, (filesOf site).lookup path = (filesOf otherSite).lookup path) ↔
      shellSource website options = shellSource other otherOptions) ∧
    (website.id = other.id →
      (RenewsShell (filesOf site) (filesOf otherSite) ↔
        shellSource website options = shellSource other otherOptions)) := by
  obtain ⟨utc, rfl⟩ := eq_compileAt_of_compile compiled
  obtain ⟨otherUtc, rfl⟩ := eq_compileAt_of_compile compiledOther
  refine ⟨lookup_worker_eq_iff website other options otherOptions utc otherUtc,
    lookup_shell_eq_iff website other options otherOptions utc otherUtc, fun sameId => ?_⟩
  have sameWorker := (lookup_worker_eq_iff website other options otherOptions utc otherUtc).mpr
    sameId
  rw [← lookup_shell_eq_iff website other options otherOptions utc otherUtc, RenewsShell]
  constructor
  · intro renews path member
    by_contra differs
    exact renews ⟨path, member, differs⟩ sameWorker
  · rintro sameShell ⟨path, member, differs⟩
    exact absurd (sameShell path member) differs

/-- A website without pages under a given name. -/
def namedWebsite (name : String) : Website :=
  { websiteOfSlugs [] with name := some name }

/-- A website that is published again with another page keeps its worker and what that keeps. -/
theorem shell_renewed_of_new_page :
    ∃ site otherSite, compile (websiteOfSlugs []) {} someNoon = .ok site ∧
      compile (websiteOfSlugs [("a", "about")]) {} someNoon = .ok otherSite ∧
      (filesOf site).lookup "sw.js" = (filesOf otherSite).lookup "sw.js" ∧
      RenewsShell (filesOf site) (filesOf otherSite) := by
  have compiled := compile_someNoon (websiteOfSlugs []) {}
  have compiledOther := compile_someNoon (websiteOfSlugs [("a", "about")]) {}
  obtain ⟨worker, _, renewed⟩ := shell_renewed_iff compiled compiledOther
  exact ⟨_, _, compiled, compiledOther, worker.mpr rfl, (renewed rfl).mpr rfl⟩

/-- A website that is published again under another name has another style file and another
manifest, but the same worker. -/
theorem not_shell_renewed :
    ¬ ∀ (website other : Website) (options otherOptions : Options) (time otherTime : ZonedTime)
        (site otherSite : CompiledSite), compile website options time = .ok site →
      compile other otherOptions otherTime = .ok otherSite → website.id = other.id →
        RenewsShell (filesOf site) (filesOf otherSite) := by
  intro renews
  have renewed := renews (namedWebsite "Old") (namedWebsite "New") {} {} someNoon someNoon _ _
    (compile_someNoon _ {}) (compile_someNoon _ {}) rfl
  have sameWorker := (lookup_worker_eq_iff (namedWebsite "Old") (namedWebsite "New") {} {}
    someUtcNoon someUtcNoon).mpr rfl
  have sameShell : ∀ path ∈ shellPaths,
      (filesOf (compileAt (namedWebsite "Old") {} someUtcNoon)).lookup path =
        (filesOf (compileAt (namedWebsite "New") {} someUtcNoon)).lookup path := by
    intro path member
    by_contra differs
    exact renewed ⟨path, member, differs⟩ sameWorker
  have sameSource := (lookup_shell_eq_iff _ _ _ _ someUtcNoon someUtcNoon).mp sameShell
  exact absurd (congrArg ShellSource.title sameSource) (by decide)

end StaticSite.Site
