/-!
Blocks of the code space: each name, behind the word `in`, stands for one range.
-/

set_option autoImplicit false

namespace ScopePaint.Unicode.Block

/-- The blocks, as pairs of a name and its range. Names are in lower case, without blanks, dashes
and underscores. -/
def table : String :=
  "inbasiclatin 0-7F inlatin1supplement 80-FF inlatinextendeda 100-17F inlatinextendedb 180-24F
  inipaextensions 250-2AF inspacingmodifierletters 2B0-2FF incombiningdiacriticalmarks 300-36F
  ingreekandcoptic 370-3FF incyrillic 400-4FF incyrillicsupplement 500-52F inarmenian 530-58F
  inhebrew 590-5FF inarabic 600-6FF insyriac 700-74F inarabicsupplement 750-77F inthaana 780-7BF
  innko 7C0-7FF insamaritan 800-83F inmandaic 840-85F insyriacsupplement 860-86F inarabicextendedb
  870-89F inarabicextendeda 8A0-8FF indevanagari 900-97F inbengali 980-9FF ingurmukhi A00-A7F
  ingujarati A80-AFF inoriya B00-B7F intamil B80-BFF intelugu C00-C7F inkannada C80-CFF
  inmalayalam D00-D7F insinhala D80-DFF inthai E00-E7F inlao E80-EFF intibetan F00-FFF inmyanmar
  1000-109F ingeorgian 10A0-10FF inhanguljamo 1100-11FF inethiopic 1200-137F inethiopicsupplement
  1380-139F incherokee 13A0-13FF inunifiedcanadianaboriginalsyllabics 1400-167F inogham 1680-169F
  inrunic 16A0-16FF intagalog 1700-171F inhanunoo 1720-173F inbuhid 1740-175F intagbanwa 1760-177F
  inkhmer 1780-17FF inmongolian 1800-18AF inunifiedcanadianaboriginalsyllabicsextended 18B0-18FF
  inlimbu 1900-194F intaile 1950-197F innewtailue 1980-19DF inkhmersymbols 19E0-19FF inbuginese
  1A00-1A1F intaitham 1A20-1AAF incombiningdiacriticalmarksextended 1AB0-1AFF inbalinese 1B00-1B7F
  insundanese 1B80-1BBF inbatak 1BC0-1BFF inlepcha 1C00-1C4F inolchiki 1C50-1C7F
  incyrillicextendedc 1C80-1C8F ingeorgianextended 1C90-1CBF insundanesesupplement 1CC0-1CCF
  invedicextensions 1CD0-1CFF inphoneticextensions 1D00-1D7F inphoneticextensionssupplement
  1D80-1DBF incombiningdiacriticalmarkssupplement 1DC0-1DFF inlatinextendedadditional 1E00-1EFF
  ingreekextended 1F00-1FFF ingeneralpunctuation 2000-206F insuperscriptsandsubscripts 2070-209F
  incurrencysymbols 20A0-20CF incombiningdiacriticalmarksforsymbols 20D0-20FF inletterlikesymbols
  2100-214F innumberforms 2150-218F inarrows 2190-21FF inmathematicaloperators 2200-22FF
  inmiscellaneoustechnical 2300-23FF incontrolpictures 2400-243F inopticalcharacterrecognition
  2440-245F inenclosedalphanumerics 2460-24FF inboxdrawing 2500-257F inblockelements 2580-259F
  ingeometricshapes 25A0-25FF inmiscellaneoussymbols 2600-26FF indingbats 2700-27BF
  inmiscellaneousmathematicalsymbolsa 27C0-27EF insupplementalarrowsa 27F0-27FF inbraillepatterns
  2800-28FF insupplementalarrowsb 2900-297F inmiscellaneousmathematicalsymbolsb 2980-29FF
  insupplementalmathematicaloperators 2A00-2AFF inmiscellaneoussymbolsandarrows 2B00-2BFF
  inglagolitic 2C00-2C5F inlatinextendedc 2C60-2C7F incoptic 2C80-2CFF ingeorgiansupplement
  2D00-2D2F intifinagh 2D30-2D7F inethiopicextended 2D80-2DDF incyrillicextendeda 2DE0-2DFF
  insupplementalpunctuation 2E00-2E7F incjkradicalssupplement 2E80-2EFF inkangxiradicals 2F00-2FDF
  inideographicdescriptioncharacters 2FF0-2FFF incjksymbolsandpunctuation 3000-303F inhiragana
  3040-309F inkatakana 30A0-30FF inbopomofo 3100-312F inhangulcompatibilityjamo 3130-318F inkanbun
  3190-319F inbopomofoextended 31A0-31BF incjkstrokes 31C0-31EF inkatakanaphoneticextensions
  31F0-31FF inenclosedcjklettersandmonths 3200-32FF incjkcompatibility 3300-33FF
  incjkunifiedideographsextensiona 3400-4DBF inyijinghexagramsymbols 4DC0-4DFF
  incjkunifiedideographs 4E00-9FFF inyisyllables A000-A48F inyiradicals A490-A4CF inlisu A4D0-A4FF
  invai A500-A63F incyrillicextendedb A640-A69F inbamum A6A0-A6FF inmodifiertoneletters A700-A71F
  inlatinextendedd A720-A7FF insylotinagri A800-A82F incommonindicnumberforms A830-A83F inphagspa
  A840-A87F insaurashtra A880-A8DF indevanagariextended A8E0-A8FF inkayahli A900-A92F inrejang
  A930-A95F inhanguljamoextendeda A960-A97F injavanese A980-A9DF inmyanmarextendedb A9E0-A9FF
  incham AA00-AA5F inmyanmarextendeda AA60-AA7F intaiviet AA80-AADF inmeeteimayekextensions
  AAE0-AAFF inethiopicextendeda AB00-AB2F inlatinextendede AB30-AB6F incherokeesupplement
  AB70-ABBF inmeeteimayek ABC0-ABFF inhangulsyllables AC00-D7AF inhanguljamoextendedb D7B0-D7FF
  inhighsurrogates D800-DB7F inhighprivateusesurrogates DB80-DBFF inlowsurrogates DC00-DFFF
  inprivateusearea E000-F8FF incjkcompatibilityideographs F900-FAFF inalphabeticpresentationforms
  FB00-FB4F inarabicpresentationformsa FB50-FDFF invariationselectors FE00-FE0F inverticalforms
  FE10-FE1F incombininghalfmarks FE20-FE2F incjkcompatibilityforms FE30-FE4F insmallformvariants
  FE50-FE6F inarabicpresentationformsb FE70-FEFF inhalfwidthandfullwidthforms FF00-FFEF inspecials
  FFF0-FFFF inlinearbsyllabary 10000-1007F inlinearbideograms 10080-100FF inaegeannumbers
  10100-1013F inancientgreeknumbers 10140-1018F inancientsymbols 10190-101CF inphaistosdisc
  101D0-101FF inlycian 10280-1029F incarian 102A0-102DF incopticepactnumbers 102E0-102FF
  inolditalic 10300-1032F ingothic 10330-1034F inoldpermic 10350-1037F inugaritic 10380-1039F
  inoldpersian 103A0-103DF indeseret 10400-1044F inshavian 10450-1047F inosmanya 10480-104AF
  inosage 104B0-104FF inelbasan 10500-1052F incaucasianalbanian 10530-1056F invithkuqi 10570-105BF
  inlineara 10600-1077F inlatinextendedf 10780-107BF incypriotsyllabary 10800-1083F
  inimperialaramaic 10840-1085F inpalmyrene 10860-1087F innabataean 10880-108AF inhatran
  108E0-108FF inphoenician 10900-1091F inlydian 10920-1093F inmeroitichieroglyphs 10980-1099F
  inmeroiticcursive 109A0-109FF inkharoshthi 10A00-10A5F inoldsoutharabian 10A60-10A7F
  inoldnortharabian 10A80-10A9F inmanichaean 10AC0-10AFF inavestan 10B00-10B3F
  ininscriptionalparthian 10B40-10B5F ininscriptionalpahlavi 10B60-10B7F inpsalterpahlavi
  10B80-10BAF inoldturkic 10C00-10C4F inoldhungarian 10C80-10CFF inhanifirohingya 10D00-10D3F
  inruminumeralsymbols 10E60-10E7F inyezidi 10E80-10EBF inarabicextendedc 10EC0-10EFF inoldsogdian
  10F00-10F2F insogdian 10F30-10F6F inolduyghur 10F70-10FAF inchorasmian 10FB0-10FDF inelymaic
  10FE0-10FFF inbrahmi 11000-1107F inkaithi 11080-110CF insorasompeng 110D0-110FF inchakma
  11100-1114F inmahajani 11150-1117F insharada 11180-111DF insinhalaarchaicnumbers 111E0-111FF
  inkhojki 11200-1124F inmultani 11280-112AF inkhudawadi 112B0-112FF ingrantha 11300-1137F innewa
  11400-1147F intirhuta 11480-114DF insiddham 11580-115FF inmodi 11600-1165F inmongoliansupplement
  11660-1167F intakri 11680-116CF inahom 11700-1174F indogra 11800-1184F inwarangciti 118A0-118FF
  indivesakuru 11900-1195F innandinagari 119A0-119FF inzanabazarsquare 11A00-11A4F insoyombo
  11A50-11AAF inunifiedcanadianaboriginalsyllabicsextendeda 11AB0-11ABF inpaucinhau 11AC0-11AFF
  indevanagariextendeda 11B00-11B5F inbhaiksuki 11C00-11C6F inmarchen 11C70-11CBF inmasaramgondi
  11D00-11D5F ingunjalagondi 11D60-11DAF inmakasar 11EE0-11EFF inkawi 11F00-11F5F inlisusupplement
  11FB0-11FBF intamilsupplement 11FC0-11FFF incuneiform 12000-123FF
  incuneiformnumbersandpunctuation 12400-1247F inearlydynasticcuneiform 12480-1254F incyprominoan
  12F90-12FFF inegyptianhieroglyphs 13000-1342F inegyptianhieroglyphformatcontrols 13430-1345F
  inanatolianhieroglyphs 14400-1467F inbamumsupplement 16800-16A3F inmro 16A40-16A6F intangsa
  16A70-16ACF inbassavah 16AD0-16AFF inpahawhhmong 16B00-16B8F inmedefaidrin 16E40-16E9F inmiao
  16F00-16F9F inideographicsymbolsandpunctuation 16FE0-16FFF intangut 17000-187FF
  intangutcomponents 18800-18AFF inkhitansmallscript 18B00-18CFF intangutsupplement 18D00-18D7F
  inkanaextendedb 1AFF0-1AFFF inkanasupplement 1B000-1B0FF inkanaextendeda 1B100-1B12F
  insmallkanaextension 1B130-1B16F innushu 1B170-1B2FF induployan 1BC00-1BC9F
  inshorthandformatcontrols 1BCA0-1BCAF inznamennymusicalnotation 1CF00-1CFCF
  inbyzantinemusicalsymbols 1D000-1D0FF inmusicalsymbols 1D100-1D1FF inancientgreekmusicalnotation
  1D200-1D24F inkaktoviknumerals 1D2C0-1D2DF inmayannumerals 1D2E0-1D2FF intaixuanjingsymbols
  1D300-1D35F incountingrodnumerals 1D360-1D37F inmathematicalalphanumericsymbols 1D400-1D7FF
  insuttonsignwriting 1D800-1DAAF inlatinextendedg 1DF00-1DFFF inglagoliticsupplement 1E000-1E02F
  incyrillicextendedd 1E030-1E08F innyiakengpuachuehmong 1E100-1E14F intoto 1E290-1E2BF inwancho
  1E2C0-1E2FF innagmundari 1E4D0-1E4FF inethiopicextendedb 1E7E0-1E7FF inmendekikakui 1E800-1E8DF
  inadlam 1E900-1E95F inindicsiyaqnumbers 1EC70-1ECBF inottomansiyaqnumbers 1ED00-1ED4F
  inarabicmathematicalalphabeticsymbols 1EE00-1EEFF inmahjongtiles 1F000-1F02F indominotiles
  1F030-1F09F inplayingcards 1F0A0-1F0FF inenclosedalphanumericsupplement 1F100-1F1FF
  inenclosedideographicsupplement 1F200-1F2FF inmiscellaneoussymbolsandpictographs 1F300-1F5FF
  inemoticons 1F600-1F64F inornamentaldingbats 1F650-1F67F intransportandmapsymbols 1F680-1F6FF
  inalchemicalsymbols 1F700-1F77F ingeometricshapesextended 1F780-1F7FF insupplementalarrowsc
  1F800-1F8FF insupplementalsymbolsandpictographs 1F900-1F9FF inchesssymbols 1FA00-1FA6F
  insymbolsandpictographsextendeda 1FA70-1FAFF insymbolsforlegacycomputing 1FB00-1FBFF
  incjkunifiedideographsextensionb 20000-2A6DF incjkunifiedideographsextensionc 2A700-2B73F
  incjkunifiedideographsextensiond 2B740-2B81F incjkunifiedideographsextensione 2B820-2CEAF
  incjkunifiedideographsextensionf 2CEB0-2EBEF incjkcompatibilityideographssupplement 2F800-2FA1F
  incjkunifiedideographsextensiong 30000-3134F incjkunifiedideographsextensionh 31350-323AF intags
  E0000-E007F invariationselectorssupplement E0100-E01EF insupplementaryprivateuseareaa
  F0000-FFFFF insupplementaryprivateuseareab 100000-10FFFF"

end ScopePaint.Unicode.Block
