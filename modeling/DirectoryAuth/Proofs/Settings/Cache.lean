import DirectoryAuth.Settings.Cache

/-! Which settings of a cache can be used, and the age limit of cached attempts. The cap on the
limit lies beyond the distance of any two instants, so it never decides. -/
namespace DirectoryAuth.CacheSettings

/-- A cache that is off, or keeps an attempt at least. -/
def Usable (settings : CacheSettings) : Prop := settings.enabled = false ∨ 0 < settings.maxDepth

instance (settings : CacheSettings) : Decidable settings.Usable :=
  inferInstanceAs (Decidable (_ ∨ _))

theorem validate_of_usable {settings : CacheSettings} (h : settings.Usable) :
    settings.validate = .ok () := by
  refine if_neg ?_
  rintro ⟨hon, hzero⟩
  rcases h with hoff | hpos
  · exact absurd (hon.symm.trans hoff) nofun
  · exact UInt64.pos_iff_ne_zero.mp hpos hzero

theorem validate_of_not_usable {settings : CacheSettings} (h : ¬settings.Usable) :
    settings.validate = .error (.invalid "Cache max depth must be greater than zero") := by
  obtain ⟨hon, hzero⟩ := not_or.mp h
  exact if_pos ⟨(Bool.not_eq_false _).mp hon,
    Decidable.not_not.mp (mt UInt64.pos_iff_ne_zero.mpr hzero)⟩

/-- The age limit in nanoseconds, without a cap. -/
def ageLimit (settings : CacheSettings) : Int := settings.maxAgeMillis.toNat * nanosPerMilli

theorem since_lt_maxAge_iff (settings : CacheSettings) (a b : Instant) :
    a.since b < settings.maxAge ↔ a.since b < settings.ageLimit := by
  obtain ⟨a, -, ha⟩ := a
  obtain ⟨b, hb, -⟩ := b
  simp only [Instant.since, maxAge, ageLimit, longestMillis, nanosPerMilli]
  omega

theorem maxAge_nonneg (settings : CacheSettings) : 0 ≤ settings.maxAge := by
  simp only [maxAge, longestMillis, nanosPerMilli]
  omega

theorem maxAge_pos {settings : CacheSettings} (h : 1 ≤ settings.maxAgeMillis) :
    0 < settings.maxAge := by
  have hnat : 1 ≤ settings.maxAgeMillis.toNat := UInt64.le_iff_toNat_le.mp h
  simp only [maxAge, longestMillis, nanosPerMilli]
  omega

/-- The longest duration, in nanoseconds. -/
def longestAge : Int := longestMillis * nanosPerMilli

theorem maxAge_le_longestAge (settings : CacheSettings) : settings.maxAge ≤ longestAge := by
  simp only [maxAge, longestAge, longestMillis, nanosPerMilli]
  omega

/-- The time between two instants is a duration, whichever of them is earlier. -/
theorem abs_since_le_longestAge (a b : Instant) :
    -longestAge ≤ a.since b ∧ a.since b ≤ longestAge := by
  obtain ⟨a, ha, ha'⟩ := a
  obtain ⟨b, hb, hb'⟩ := b
  simp only [Instant.since, longestAge, longestMillis, nanosPerMilli]
  omega

end DirectoryAuth.CacheSettings
