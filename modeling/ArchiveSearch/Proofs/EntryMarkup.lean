import ArchiveSearch.Page.Markup
import ArchiveSearch.Proofs.Entity

/-!
# Markup of an entry

The attributes of an entry hold its title and its categories side by side, with a name in front of
each that the configuration gives as it likes, quotes included. The title still ends at the first
quote behind what all entries of the page start with, and then the categories do, so the attributes
tell entries apart (`Entry.attributes_injective`). A reader who does not know the names finds the
two texts by counting quotes, if the names hold no delimiters: the quotes are then those of the
template (`Entry.count_attributes`, `Entry.splitOn_attributes`).
-/

namespace ArchiveSearch

/-- Behind attributes of one name the values can be told apart, and what follows them. -/
theorem attributeText_append_inj {name value value' rest rest' : Text}
    (h : attributeText name value ++ rest = attributeText name value' ++ rest') :
    value = value' ∧ rest = rest' := by
  unfold attributeText at h
  simp only [List.append_assoc, List.append_cancel_left_eq] at h
  exact Text.escape_append_inj h

/-- The names of the two data attributes hold neither quotes nor brackets. -/
structure Config.PlainNames (config : Config) : Prop where
  titleName : ∀ c, Text.IsDelimiter c → c ∉ config.titleName
  categoriesName : ∀ c, Text.IsDelimiter c → c ∉ config.categoriesName

namespace Entry

/-- The attribute behind the categories, with the space in front of it. -/
def styleText (entry : Entry) : Text :=
  " style=\"display: ".toList ++ (entry.display ++ "\"".toList)

/-- The attributes one by one, each in front of what follows it. -/
theorem attributes_eq (config : Config) (entry : Entry) :
    entry.attributes config =
      attributeText "class".toList config.entryClass ++ (" ".toList ++
        (attributeText config.titleName entry.title ++ (" ".toList ++
          (attributeText config.categoriesName entry.categories ++ entry.styleText)))) := by
  unfold attributes styleText
  simp only [List.append_assoc]

/-- The style tells whether an entry is shown, since the two displays have different names. -/
theorem visible_of_styleText {entry other : Entry} (h : entry.styleText = other.styleText) :
    entry.visible = other.visible := by
  have hdisplay : entry.display = other.display :=
    List.append_cancel_right (List.append_cancel_left h)
  have hne : "block".toList ≠ "none".toList := by decide
  grind [display]

/-- Entries with the same attributes are the same, whatever the names are. -/
theorem attributes_injective (config : Config) :
    Function.Injective (Entry.attributes config) := by
  intro entry other h
  rw [attributes_eq, attributes_eq] at h
  have hdata := List.append_cancel_left (List.append_cancel_left h)
  obtain ⟨htitle, hbehind⟩ := attributeText_append_inj hdata
  obtain ⟨hcategories, hstyle⟩ := attributeText_append_inj (List.append_cancel_left hbehind)
  have hvisible := visible_of_styleText hstyle
  cases entry
  cases other
  rw [Entry.mk.injEq]
  exact ⟨htitle, hcategories, hvisible⟩

theorem not_mem_display {c : Char} (hc : Text.IsDelimiter c) (entry : Entry) :
    c ∉ entry.display := by
  unfold display
  split
  · rcases hc with rfl | rfl | rfl <;> decide
  · rcases hc with rfl | rfl | rfl <;> decide

/-- With plain names the delimiters in the attributes are those of the template. -/
theorem count_attributes {c : Char} (hc : Text.IsDelimiter c) {config : Config}
    (hnames : config.PlainNames) (entry : Entry) :
    (entry.attributes config).count c =
      (attributes { entryClass := [], titleName := [], categoriesName := [] }
        { title := [], categories := [] }).count c := by
  have htitleName := List.count_eq_zero.mpr (hnames.titleName c hc)
  have hcategoriesName := List.count_eq_zero.mpr (hnames.categoriesName c hc)
  have hdisplay : ∀ shown : Entry, shown.display.count c = 0 :=
    fun shown => List.count_eq_zero.mpr (not_mem_display hc shown)
  unfold attributes attributeText
  simp only [List.count_append, Text.count_escape hc, htitleName, hcategoriesName, hdisplay]
  rfl

/-- The pieces of the attributes before, between and after their quotes. -/
def attributePieces (config : Config) (entry : Entry) : List Text :=
  ["class=".toList, Text.escape config.entryClass, " ".toList ++ config.titleName ++ "=".toList,
    Text.escape entry.title, " ".toList ++ config.categoriesName ++ "=".toList,
    Text.escape entry.categories, " style=".toList, "display: ".toList ++ entry.display, []]

/-- The attributes are their pieces with a quote between every two of them. -/
theorem attributes_eq_intercalate (config : Config) (entry : Entry) :
    entry.attributes config = ['"'].intercalate (entry.attributePieces config) := by
  unfold attributes attributeText attributePieces
  simp only [List.intercalate_cons_cons, List.intercalate_singleton, List.append_assoc]
  rfl

/-- With plain names the quotes cut the attributes into these pieces. -/
theorem splitOn_attributes {config : Config} (hnames : config.PlainNames) (entry : Entry) :
    (entry.attributes config).splitOn '"' = entry.attributePieces config := by
  rw [attributes_eq_intercalate]
  refine List.splitOn_intercalate '"' ?_ (List.cons_ne_nil _ _)
  have hescape : ∀ value, '"' ∉ Text.escape value := Text.not_mem_escape (.inl rfl)
  have htitleName := hnames.titleName '"' (.inl rfl)
  have hcategoriesName := hnames.categoriesName '"' (.inl rfl)
  have hdisplay := not_mem_display (.inl rfl) entry
  simp only [attributePieces, List.forall_mem_cons, List.mem_append, hescape, htitleName,
    hcategoriesName, hdisplay, not_false_eq_true, true_and, or_false]
  decide

/-- **The attributes of an entry tell what the entry is.** For any configuration, entries that have
the same attributes are the same: in title, in categories, and in whether they are shown. If the two
names hold no delimiters, the attributes have eight quotes and no brackets, and the texts between
the third and fourth and between the fifth and sixth quote, with their entities replaced back, are
the title and the categories. -/
theorem attributes_tell_entry (config : Config) (entry : Entry) :
    (∀ other : Entry, other.attributes config = entry.attributes config → other = entry) ∧
      (config.PlainNames →
        (entry.attributes config).count '"' = 8 ∧ '<' ∉ entry.attributes config ∧
          '>' ∉ entry.attributes config ∧
          (∃ title, ((entry.attributes config).splitOn '"')[3]? = some title ∧
            Text.unescape title = entry.title) ∧
          ∃ categories, ((entry.attributes config).splitOn '"')[5]? = some categories ∧
            Text.unescape categories = entry.categories) := by
  constructor
  · intro other hsame
    exact attributes_injective config hsame
  · intro hnames
    refine ⟨?_, ?_, ?_, ⟨Text.escape entry.title, ?_, Text.unescape_escape _⟩,
      ⟨Text.escape entry.categories, ?_, Text.unescape_escape _⟩⟩
    · rw [count_attributes (.inl rfl) hnames]
      rfl
    · rw [← List.count_eq_zero, count_attributes (.inr (.inl rfl)) hnames]
      rfl
    · rw [← List.count_eq_zero, count_attributes (.inr (.inr rfl)) hnames]
      rfl
    · rw [splitOn_attributes hnames]
      rfl
    · rw [splitOn_attributes hnames]
      rfl

/-- The title goes on like the attribute behind it, the categories look escaped already, and the
class has delimiters. Under names that are quotes themselves the entry is told from its hidden
twin, and it is told to be the entry that a post makes. -/
theorem attributes_tell_entry_of_lookalikes :
    let entry : Entry :=
      { title := "a\" data-categories=\"".toList, categories := "<b>, &quot;".toList }
    let other :=
      ofPost ", ".toList ⟨"A\" data-categories=\"".toList, ["<B>", "&quot;"].map (·.toList)⟩
    let config : Config := { entryClass := "\"post>".toList }
    let quoted : Config := { titleName := "\"".toList, categoriesName := "=\"".toList }
    let hidden := { entry with visible := false }
    other.attributes quoted = entry.attributes quoted ∧ other = entry ∧
      hidden.attributes quoted ≠ entry.attributes quoted ∧ config.PlainNames ∧
      (entry.attributes config).count '"' = 8 ∧
      ((entry.attributes config).splitOn '"')[3]? =
        some "a&quot; data-categories=&quot;".toList ∧
      Text.unescape "a&quot; data-categories=&quot;".toList = entry.title := by
  intro entry other config quoted hidden
  have hsame : other.attributes quoted = entry.attributes quoted := by decide +kernel
  have hnames : config.PlainNames := by
    constructor <;>
      · intro c hc
        rcases hc with rfl | rfl | rfl <;> decide
  obtain ⟨hcount, -, -, ⟨title, htitle, hread⟩, -⟩ := (attributes_tell_entry config entry).2 hnames
  have hpiece : ((entry.attributes config).splitOn '"')[3]? =
      some "a&quot; data-categories=&quot;".toList := by decide +kernel
  rw [hpiece] at htitle
  cases htitle
  refine ⟨hsame, (attributes_tell_entry quoted entry).1 other hsame, ?_, hnames, hcount, hpiece,
    hread⟩
  intro hhidden
  have htwin : hidden = entry := (attributes_tell_entry quoted entry).1 hidden hhidden
  exact Bool.false_ne_true (congrArg Entry.visible htwin)

end Entry

end ArchiveSearch
