/-!
# Record types

The 16-bit type of a record says what it holds. Types that are known have a name.
-/

namespace DeckDump

/-- What a record holds, as its header says it. -/
abbrev RecordType := UInt16

namespace RecordType

def documentAtom : RecordType := 0x03E9
def slidePersistAtom : RecordType := 0x03F3
def textHeaderAtom : RecordType := 0x0F9F
def textCharsAtom : RecordType := 0x0FA0
def textBytesAtom : RecordType := 0x0FA8
def cString : RecordType := 0x0FBA
def userEditAtom : RecordType := 0x0FF5
def currentUserAtom : RecordType := 0x0FF6

/-- The types that have a name of their own. -/
def names : List (RecordType × String) :=
  [
    (0x03E8, "Document"),
    (0x03E9, "DocumentAtom"),
    (0x03EA, "EndDocumentAtom"),
    (0x03EE, "Slide"),
    (0x03EF, "SlideAtom"),
    (0x03F0, "Notes"),
    (0x03F1, "NotesAtom"),
    (0x03F2, "Environment"),
    (0x03F3, "SlidePersistAtom"),
    (0x03F8, "MainMaster"),
    (0x03F9, "SlideShowSlideInfoAtom"),
    (0x03FA, "SlideViewInfo"),
    (0x03FB, "GuideAtom"),
    (0x03FD, "ViewInfoAtom"),
    (0x03FE, "SlideViewInfoAtom"),
    (0x03FF, "VbaInfo"),
    (0x0400, "VbaInfoAtom"),
    (0x0401, "SlideShowDocInfoAtom"),
    (0x0402, "Summary"),
    (0x0406, "DocRoutingSlipAtom"),
    (0x0407, "OutlineViewInfo"),
    (0x0408, "SorterViewInfo"),
    (0x0409, "ExternalObjectList"),
    (0x040A, "ExternalObjectListAtom"),
    (0x040B, "DrawingGroup"),
    (0x040C, "Drawing"),
    (0x040D, "GridSpacing10Atom"),
    (0x040E, "RoundTripTheme12Atom"),
    (0x040F, "RoundTripColorMapping12Atom"),
    (0x0410, "NamedShows"),
    (0x0411, "NamedShow"),
    (0x0412, "NamedShowSlidesAtom"),
    (0x0413, "NotesTextViewInfo9"),
    (0x0414, "NormalViewSetInfo9"),
    (0x0415, "NormalViewSetInfo9Atom"),
    (0x0416, "RoundTripOriginalMainMasterId12Atom"),
    (0x0417, "RoundTripCompositeMasterId12Atom"),
    (0x0418, "RoundTripContentMasterInfo12Atom"),
    (0x0419, "RoundTripShapeId12Atom"),
    (0x041A, "RoundTripHFPlaceholder12Atom"),
    (0x041C, "RoundTripContentMasterId12Atom"),
    (0x041D, "RoundTripOArtTextStyles12Atom"),
    (0x041E, "RoundTripHeaderFooterDefaults12Atom"),
    (0x041F, "RoundTripDocFlags12Atom"),
    (0x0420, "RoundTripShapeCheckSumForCL12Atom"),
    (0x0421, "RoundTripNotesMasterTextStyles12Atom"),
    (0x0422, "RoundTripCustomTableStyles12Atom"),
    (0x07D0, "List"),
    (0x07D5, "FontCollection"),
    (0x07DE, "BookmarkCollection"),
    (0x07E3, "SoundCollection"),
    (0x07E4, "SoundCollectionAtom"),
    (0x07E6, "Sound"),
    (0x07E7, "SoundDataBlob"),
    (0x07E9, "BookmarkSeedAtom"),
    (0x07F0, "ColorSchemeAtom"),
    (0x0BC1, "ExternalObjectRefAtom"),
    (0x0BC3, "PlaceholderAtom"),
    (0x0F9E, "OutlineTextRefAtom"),
    (0x0F9F, "TextHeaderAtom"),
    (0x0FA0, "TextCharsAtom"),
    (0x0FA1, "StyleTextPropAtom"),
    (0x0FA2, "MasterTextPropAtom"),
    (0x0FA3, "TextMasterStyleAtom"),
    (0x0FA4, "TextCharFormatExceptionAtom"),
    (0x0FA5, "TextParagraphFormatExceptionAtom"),
    (0x0FA6, "TextRulerAtom"),
    (0x0FA7, "TextBookmarkAtom"),
    (0x0FA8, "TextBytesAtom"),
    (0x0FA9, "TextSpecialInfoDefaultAtom"),
    (0x0FAA, "TextSpecialInfoAtom"),
    (0x0FAB, "DefaultRulerAtom"),
    (0x0FAC, "StyleTextProp9Atom"),
    (0x0FAD, "TextMasterStyle9Atom"),
    (0x0FAE, "OutlineTextProps9"),
    (0x0FAF, "OutlineTextPropsHeader9Atom"),
    (0x0FB0, "TextDefaults9Atom"),
    (0x0FB1, "StyleTextProp10Atom"),
    (0x0FB2, "TextMasterStyle10Atom"),
    (0x0FB3, "OutlineTextProps10"),
    (0x0FB4, "TextDefaults10Atom"),
    (0x0FB5, "OutlineTextProps11"),
    (0x0FB6, "StyleTextProp11Atom"),
    (0x0FB7, "FontEntityAtom"),
    (0x0FB8, "FontEmbedDataBlob"),
    (0x0FBA, "CString"),
    (0x0FC1, "MetaFile"),
    (0x0FC3, "ExternalOleObjectAtom"),
    (0x0FC8, "Kinsoku"),
    (0x0FC9, "Handout"),
    (0x0FCC, "ExternalOleEmbed"),
    (0x0FCD, "ExternalOleEmbedAtom"),
    (0x0FCE, "ExternalOleLink"),
    (0x0FD0, "BookmarkEntityAtom"),
    (0x0FD1, "ExternalOleLinkAtom"),
    (0x0FD2, "KinsokuAtom"),
    (0x0FD3, "ExternalHyperlinkAtom"),
    (0x0FD7, "ExternalHyperlink"),
    (0x0FD8, "SlideNumberMetaCharAtom"),
    (0x0FD9, "HeadersFooters"),
    (0x0FDA, "HeadersFootersAtom"),
    (0x0FDF, "TextInteractiveInfoAtom"),
    (0x0FE4, "ExternalHyperlink9"),
    (0x0FE7, "RecolorInfoAtom"),
    (0x0FEE, "ExternalOleControl"),
    (0x0FF0, "SlideListWithText"),
    (0x0FF1, "AnimationInfoAtom"),
    (0x0FF2, "InteractiveInfo"),
    (0x0FF3, "InteractiveInfoAtom"),
    (0x0FF5, "UserEditAtom"),
    (0x0FF6, "CurrentUserAtom"),
    (0x0FF7, "DateTimeMetaCharAtom"),
    (0x0FF8, "GenericDateMetaCharAtom"),
    (0x0FF9, "HeaderMetaCharAtom"),
    (0x0FFA, "FooterMetaCharAtom"),
    (0x0FFB, "ExternalOleControlAtom"),
    (0x1004, "ExternalMediaAtom"),
    (0x1005, "ExternalVideo"),
    (0x1006, "ExternalAviMovie"),
    (0x1007, "ExternalMciMovie"),
    (0x100D, "ExternalMidiAudio"),
    (0x100E, "ExternalCdAudio"),
    (0x100F, "ExternalWavAudioEmbedded"),
    (0x1010, "ExternalWavAudioLink"),
    (0x1011, "ExternalOleObjectStg"),
    (0x1012, "ExternalCdAudioAtom"),
    (0x1013, "ExternalWavAudioEmbeddedAtom"),
    (0x1014, "AnimationInfo"),
    (0x1015, "RtfDateTimeMetaCharAtom"),
    (0x1018, "ExternalHyperlinkFlagsAtom"),
    (0x1388, "ProgTags"),
    (0x1389, "ProgStringTag"),
    (0x138A, "ProgBinaryTag"),
    (0x138B, "BinaryTagDataBlob"),
    (0x1770, "PrintOptionsAtom"),
    (0x1772, "PersistDirectoryAtom"),
    (0x177A, "PresentationAdvisorFlags9Atom"),
    (0x177B, "HtmlDocInfo9Atom"),
    (0x177C, "HtmlPublishInfoAtom"),
    (0x177D, "HtmlPublishInfo9"),
    (0x177E, "BroadcastDocInfo9"),
    (0x177F, "BroadcastDocInfo9Atom"),
    (0x1784, "EnvelopeFlags9Atom"),
    (0x1785, "EnvelopeData9Atom"),
    (0xF000, "OfficeArtDggContainer"),
    (0xF001, "OfficeArtBStoreContainer"),
    (0xF002, "OfficeArtDgContainer"),
    (0xF003, "OfficeArtSpgrContainer"),
    (0xF004, "OfficeArtSpContainer"),
    (0xF005, "OfficeArtSolverContainer"),
    (0xF006, "OfficeArtFDGGBlock"),
    (0xF007, "OfficeArtFBSE"),
    (0xF008, "OfficeArtFDG"),
    (0xF009, "OfficeArtFSPGR"),
    (0xF00A, "OfficeArtFSP"),
    (0xF00B, "OfficeArtFOPT"),
    (0xF00D, "OfficeArtClientTextbox"),
    (0xF00F, "OfficeArtChildAnchor"),
    (0xF010, "OfficeArtClientAnchor"),
    (0xF011, "OfficeArtClientData"),
    (0xF118, "OfficeArtFRITContainer"),
    (0xF11A, "OfficeArtColorMRUContainer"),
    (0xF11E, "OfficeArtSplitMenuColorContainer"),
    (0xF122, "OfficeArtTertiaryFOPT")]

/-- Whether records of the type hold one picture. -/
def isPicture (t : RecordType) : Bool :=
  (0xF01A ≤ t && t ≤ 0xF01F) || t == 0xF029 || t == 0xF02A

/-- The name of a record type. -/
def name (t : RecordType) : String :=
  match names.lookup t with
  | some n => n
  | none => if t.isPicture then "OfficeArtBlip" else "Unknown"

end RecordType

end DeckDump
