import JavaHomes.Unicode.CodePoints

/-!
The Unicode properties Script and Script_Extensions. A script is kept as its four-letter code. The
tables list the places where the value changes; in the second one a run without codes has the
extensions that its script implies.
-/

namespace JavaHomes.Unicode.Script

/-- The places where the script changes: a code and the code point in hexadecimal. -/
def changes : String :=
  "Zyyy0 Latn41 Zyyy5B Latn61 Zyyy7B LatnAA ZyyyAB LatnBA ZyyyBB LatnC0 ZyyyD7 LatnD8 ZyyyF7
   LatnF8 Zyyy2B9 Latn2E0 Zyyy2E5 Bopo2EA Zyyy2EC Zinh300 Grek370 Zyyy374 Grek375 Zzzz378 Grek37A
   Zyyy37E Grek37F Zzzz380 Grek384 Zyyy385 Grek386 Zyyy387 Grek388 Zzzz38B Grek38C Zzzz38D Grek38E
   Zzzz3A2 Grek3A3 Copt3E2 Grek3F0 Cyrl400 Zinh485 Cyrl487 Zzzz530 Armn531 Zzzz557 Armn559 Zzzz58B
   Armn58D Zzzz590 Hebr591 Zzzz5C8 Hebr5D0 Zzzz5EB Hebr5EF Zzzz5F5 Arab600 Zyyy605 Arab606 Zyyy60C
   Arab60D Zyyy61B Arab61C Zyyy61F Arab620 Zyyy640 Arab641 Zinh64B Arab656 Zinh670 Arab671 Zyyy6DD
   Arab6DE Syrc700 Zzzz70E Syrc70F Zzzz74B Syrc74D Arab750 Thaa780 Zzzz7B2 Nkoo7C0 Zzzz7FB Nkoo7FD
   Samr800 Zzzz82E Samr830 Zzzz83F Mand840 Zzzz85C Mand85E Zzzz85F Syrc860 Zzzz86B Arab870 Zzzz88F
   Arab890 Zzzz892 Arab897 Zyyy8E2 Arab8E3 Deva900 Zinh951 Deva955 Zyyy964 Deva966 Beng980 Zzzz984
   Beng985 Zzzz98D Beng98F Zzzz991 Beng993 Zzzz9A9 Beng9AA Zzzz9B1 Beng9B2 Zzzz9B3 Beng9B6 Zzzz9BA
   Beng9BC Zzzz9C5 Beng9C7 Zzzz9C9 Beng9CB Zzzz9CF Beng9D7 Zzzz9D8 Beng9DC Zzzz9DE Beng9DF Zzzz9E4
   Beng9E6 Zzzz9FF GuruA01 ZzzzA04 GuruA05 ZzzzA0B GuruA0F ZzzzA11 GuruA13 ZzzzA29 GuruA2A ZzzzA31
   GuruA32 ZzzzA34 GuruA35 ZzzzA37 GuruA38 ZzzzA3A GuruA3C ZzzzA3D GuruA3E ZzzzA43 GuruA47 ZzzzA49
   GuruA4B ZzzzA4E GuruA51 ZzzzA52 GuruA59 ZzzzA5D GuruA5E ZzzzA5F GuruA66 ZzzzA77 GujrA81 ZzzzA84
   GujrA85 ZzzzA8E GujrA8F ZzzzA92 GujrA93 ZzzzAA9 GujrAAA ZzzzAB1 GujrAB2 ZzzzAB4 GujrAB5 ZzzzABA
   GujrABC ZzzzAC6 GujrAC7 ZzzzACA GujrACB ZzzzACE GujrAD0 ZzzzAD1 GujrAE0 ZzzzAE4 GujrAE6 ZzzzAF2
   GujrAF9 ZzzzB00 OryaB01 ZzzzB04 OryaB05 ZzzzB0D OryaB0F ZzzzB11 OryaB13 ZzzzB29 OryaB2A ZzzzB31
   OryaB32 ZzzzB34 OryaB35 ZzzzB3A OryaB3C ZzzzB45 OryaB47 ZzzzB49 OryaB4B ZzzzB4E OryaB55 ZzzzB58
   OryaB5C ZzzzB5E OryaB5F ZzzzB64 OryaB66 ZzzzB78 TamlB82 ZzzzB84 TamlB85 ZzzzB8B TamlB8E ZzzzB91
   TamlB92 ZzzzB96 TamlB99 ZzzzB9B TamlB9C ZzzzB9D TamlB9E ZzzzBA0 TamlBA3 ZzzzBA5 TamlBA8 ZzzzBAB
   TamlBAE ZzzzBBA TamlBBE ZzzzBC3 TamlBC6 ZzzzBC9 TamlBCA ZzzzBCE TamlBD0 ZzzzBD1 TamlBD7 ZzzzBD8
   TamlBE6 ZzzzBFB TeluC00 ZzzzC0D TeluC0E ZzzzC11 TeluC12 ZzzzC29 TeluC2A ZzzzC3A TeluC3C ZzzzC45
   TeluC46 ZzzzC49 TeluC4A ZzzzC4E TeluC55 ZzzzC57 TeluC58 ZzzzC5B TeluC5D ZzzzC5E TeluC60 ZzzzC64
   TeluC66 ZzzzC70 TeluC77 KndaC80 ZzzzC8D KndaC8E ZzzzC91 KndaC92 ZzzzCA9 KndaCAA ZzzzCB4 KndaCB5
   ZzzzCBA KndaCBC ZzzzCC5 KndaCC6 ZzzzCC9 KndaCCA ZzzzCCE KndaCD5 ZzzzCD7 KndaCDD ZzzzCDF KndaCE0
   ZzzzCE4 KndaCE6 ZzzzCF0 KndaCF1 ZzzzCF4 MlymD00 ZzzzD0D MlymD0E ZzzzD11 MlymD12 ZzzzD45 MlymD46
   ZzzzD49 MlymD4A ZzzzD50 MlymD54 ZzzzD64 MlymD66 ZzzzD80 SinhD81 ZzzzD84 SinhD85 ZzzzD97 SinhD9A
   ZzzzDB2 SinhDB3 ZzzzDBC SinhDBD ZzzzDBE SinhDC0 ZzzzDC7 SinhDCA ZzzzDCB SinhDCF ZzzzDD5 SinhDD6
   ZzzzDD7 SinhDD8 ZzzzDE0 SinhDE6 ZzzzDF0 SinhDF2 ZzzzDF5 ThaiE01 ZzzzE3B ZyyyE3F ThaiE40 ZzzzE5C
   LaooE81 ZzzzE83 LaooE84 ZzzzE85 LaooE86 ZzzzE8B LaooE8C ZzzzEA4 LaooEA5 ZzzzEA6 LaooEA7 ZzzzEBE
   LaooEC0 ZzzzEC5 LaooEC6 ZzzzEC7 LaooEC8 ZzzzECF LaooED0 ZzzzEDA LaooEDC ZzzzEE0 TibtF00 ZzzzF48
   TibtF49 ZzzzF6D TibtF71 ZzzzF98 TibtF99 ZzzzFBD TibtFBE ZzzzFCD TibtFCE ZyyyFD5 TibtFD9 ZzzzFDB
   Mymr1000 Geor10A0 Zzzz10C6 Geor10C7 Zzzz10C8 Geor10CD Zzzz10CE Geor10D0 Zyyy10FB Geor10FC
   Hang1100 Ethi1200 Zzzz1249 Ethi124A Zzzz124E Ethi1250 Zzzz1257 Ethi1258 Zzzz1259 Ethi125A
   Zzzz125E Ethi1260 Zzzz1289 Ethi128A Zzzz128E Ethi1290 Zzzz12B1 Ethi12B2 Zzzz12B6 Ethi12B8
   Zzzz12BF Ethi12C0 Zzzz12C1 Ethi12C2 Zzzz12C6 Ethi12C8 Zzzz12D7 Ethi12D8 Zzzz1311 Ethi1312
   Zzzz1316 Ethi1318 Zzzz135B Ethi135D Zzzz137D Ethi1380 Zzzz139A Cher13A0 Zzzz13F6 Cher13F8
   Zzzz13FE Cans1400 Ogam1680 Zzzz169D Runr16A0 Zyyy16EB Runr16EE Zzzz16F9 Tglg1700 Zzzz1716
   Tglg171F Hano1720 Zyyy1735 Zzzz1737 Buhd1740 Zzzz1754 Tagb1760 Zzzz176D Tagb176E Zzzz1771
   Tagb1772 Zzzz1774 Khmr1780 Zzzz17DE Khmr17E0 Zzzz17EA Khmr17F0 Zzzz17FA Mong1800 Zyyy1802
   Mong1804 Zyyy1805 Mong1806 Zzzz181A Mong1820 Zzzz1879 Mong1880 Zzzz18AB Cans18B0 Zzzz18F6
   Limb1900 Zzzz191F Limb1920 Zzzz192C Limb1930 Zzzz193C Limb1940 Zzzz1941 Limb1944 Tale1950
   Zzzz196E Tale1970 Zzzz1975 Talu1980 Zzzz19AC Talu19B0 Zzzz19CA Talu19D0 Zzzz19DB Talu19DE
   Khmr19E0 Bugi1A00 Zzzz1A1C Bugi1A1E Lana1A20 Zzzz1A5F Lana1A60 Zzzz1A7D Lana1A7F Zzzz1A8A
   Lana1A90 Zzzz1A9A Lana1AA0 Zzzz1AAE Zinh1AB0 Zzzz1ACF Bali1B00 Zzzz1B4D Bali1B4E Sund1B80
   Batk1BC0 Zzzz1BF4 Batk1BFC Lepc1C00 Zzzz1C38 Lepc1C3B Zzzz1C4A Lepc1C4D Olck1C50 Cyrl1C80
   Zzzz1C8B Geor1C90 Zzzz1CBB Geor1CBD Sund1CC0 Zzzz1CC8 Zinh1CD0 Zyyy1CD3 Zinh1CD4 Zyyy1CE1
   Zinh1CE2 Zyyy1CE9 Zinh1CED Zyyy1CEE Zinh1CF4 Zyyy1CF5 Zinh1CF8 Zyyy1CFA Zzzz1CFB Latn1D00
   Grek1D26 Cyrl1D2B Latn1D2C Grek1D5D Latn1D62 Grek1D66 Latn1D6B Cyrl1D78 Latn1D79 Grek1DBF
   Zinh1DC0 Latn1E00 Grek1F00 Zzzz1F16 Grek1F18 Zzzz1F1E Grek1F20 Zzzz1F46 Grek1F48 Zzzz1F4E
   Grek1F50 Zzzz1F58 Grek1F59 Zzzz1F5A Grek1F5B Zzzz1F5C Grek1F5D Zzzz1F5E Grek1F5F Zzzz1F7E
   Grek1F80 Zzzz1FB5 Grek1FB6 Zzzz1FC5 Grek1FC6 Zzzz1FD4 Grek1FD6 Zzzz1FDC Grek1FDD Zzzz1FF0
   Grek1FF2 Zzzz1FF5 Grek1FF6 Zzzz1FFF Zyyy2000 Zinh200C Zyyy200E Zzzz2065 Zyyy2066 Latn2071
   Zzzz2072 Zyyy2074 Latn207F Zyyy2080 Zzzz208F Latn2090 Zzzz209D Zyyy20A0 Zzzz20C1 Zinh20D0
   Zzzz20F1 Zyyy2100 Grek2126 Zyyy2127 Latn212A Zyyy212C Latn2132 Zyyy2133 Latn214E Zyyy214F
   Latn2160 Zyyy2189 Zzzz218C Zyyy2190 Zzzz242A Zyyy2440 Zzzz244B Zyyy2460 Brai2800 Zyyy2900
   Zzzz2B74 Zyyy2B76 Zzzz2B96 Zyyy2B97 Glag2C00 Latn2C60 Copt2C80 Zzzz2CF4 Copt2CF9 Geor2D00
   Zzzz2D26 Geor2D27 Zzzz2D28 Geor2D2D Zzzz2D2E Tfng2D30 Zzzz2D68 Tfng2D6F Zzzz2D71 Tfng2D7F
   Ethi2D80 Zzzz2D97 Ethi2DA0 Zzzz2DA7 Ethi2DA8 Zzzz2DAF Ethi2DB0 Zzzz2DB7 Ethi2DB8 Zzzz2DBF
   Ethi2DC0 Zzzz2DC7 Ethi2DC8 Zzzz2DCF Ethi2DD0 Zzzz2DD7 Ethi2DD8 Zzzz2DDF Cyrl2DE0 Zyyy2E00
   Zzzz2E5E Hani2E80 Zzzz2E9A Hani2E9B Zzzz2EF4 Hani2F00 Zzzz2FD6 Zyyy2FF0 Hani3005 Zyyy3006
   Hani3007 Zyyy3008 Hani3021 Zinh302A Hang302E Zyyy3030 Hani3038 Zyyy303C Zzzz3040 Hira3041
   Zzzz3097 Zinh3099 Zyyy309B Hira309D Zyyy30A0 Kana30A1 Zyyy30FB Kana30FD Zzzz3100 Bopo3105
   Zzzz3130 Hang3131 Zzzz318F Zyyy3190 Bopo31A0 Zyyy31C0 Zzzz31E6 Zyyy31EF Kana31F0 Hang3200
   Zzzz321F Zyyy3220 Hang3260 Zyyy327F Kana32D0 Zyyy32FF Kana3300 Zyyy3358 Hani3400 Zyyy4DC0
   Hani4E00 YiiiA000 ZzzzA48D YiiiA490 ZzzzA4C7 LisuA4D0 VaiiA500 ZzzzA62C CyrlA640 BamuA6A0
   ZzzzA6F8 ZyyyA700 LatnA722 ZyyyA788 LatnA78B ZzzzA7CE LatnA7D0 ZzzzA7D2 LatnA7D3 ZzzzA7D4
   LatnA7D5 ZzzzA7DD LatnA7F2 SyloA800 ZzzzA82D ZyyyA830 ZzzzA83A PhagA840 ZzzzA878 SaurA880
   ZzzzA8C6 SaurA8CE ZzzzA8DA DevaA8E0 KaliA900 ZyyyA92E KaliA92F RjngA930 ZzzzA954 RjngA95F
   HangA960 ZzzzA97D JavaA980 ZzzzA9CE ZyyyA9CF JavaA9D0 ZzzzA9DA JavaA9DE MymrA9E0 ZzzzA9FF
   ChamAA00 ZzzzAA37 ChamAA40 ZzzzAA4E ChamAA50 ZzzzAA5A ChamAA5C MymrAA60 TavtAA80 ZzzzAAC3
   TavtAADB MteiAAE0 ZzzzAAF7 EthiAB01 ZzzzAB07 EthiAB09 ZzzzAB0F EthiAB11 ZzzzAB17 EthiAB20
   ZzzzAB27 EthiAB28 ZzzzAB2F LatnAB30 ZyyyAB5B LatnAB5C GrekAB65 LatnAB66 ZyyyAB6A ZzzzAB6C
   CherAB70 MteiABC0 ZzzzABEE MteiABF0 ZzzzABFA HangAC00 ZzzzD7A4 HangD7B0 ZzzzD7C7 HangD7CB
   ZzzzD7FC HaniF900 ZzzzFA6E HaniFA70 ZzzzFADA LatnFB00 ZzzzFB07 ArmnFB13 ZzzzFB18 HebrFB1D
   ZzzzFB37 HebrFB38 ZzzzFB3D HebrFB3E ZzzzFB3F HebrFB40 ZzzzFB42 HebrFB43 ZzzzFB45 HebrFB46
   ArabFB50 ZzzzFBC3 ArabFBD3 ZyyyFD3E ArabFD40 ZzzzFD90 ArabFD92 ZzzzFDC8 ArabFDCF ZzzzFDD0
   ArabFDF0 ZinhFE00 ZyyyFE10 ZzzzFE1A ZinhFE20 CyrlFE2E ZyyyFE30 ZzzzFE53 ZyyyFE54 ZzzzFE67
   ZyyyFE68 ZzzzFE6C ArabFE70 ZzzzFE75 ArabFE76 ZzzzFEFD ZyyyFEFF ZzzzFF00 ZyyyFF01 LatnFF21
   ZyyyFF3B LatnFF41 ZyyyFF5B KanaFF66 ZyyyFF70 KanaFF71 ZyyyFF9E HangFFA0 ZzzzFFBF HangFFC2
   ZzzzFFC8 HangFFCA ZzzzFFD0 HangFFD2 ZzzzFFD8 HangFFDA ZzzzFFDD ZyyyFFE0 ZzzzFFE7 ZyyyFFE8
   ZzzzFFEF ZyyyFFF9 ZzzzFFFE Linb10000 Zzzz1000C Linb1000D Zzzz10027 Linb10028 Zzzz1003B
   Linb1003C Zzzz1003E Linb1003F Zzzz1004E Linb10050 Zzzz1005E Linb10080 Zzzz100FB Zyyy10100
   Zzzz10103 Zyyy10107 Zzzz10134 Zyyy10137 Grek10140 Zzzz1018F Zyyy10190 Zzzz1019D Grek101A0
   Zzzz101A1 Zyyy101D0 Zinh101FD Zzzz101FE Lyci10280 Zzzz1029D Cari102A0 Zzzz102D1 Zinh102E0
   Zyyy102E1 Zzzz102FC Ital10300 Zzzz10324 Ital1032D Goth10330 Zzzz1034B Perm10350 Zzzz1037B
   Ugar10380 Zzzz1039E Ugar1039F Xpeo103A0 Zzzz103C4 Xpeo103C8 Zzzz103D6 Dsrt10400 Shaw10450
   Osma10480 Zzzz1049E Osma104A0 Zzzz104AA Osge104B0 Zzzz104D4 Osge104D8 Zzzz104FC Elba10500
   Zzzz10528 Aghb10530 Zzzz10564 Aghb1056F Vith10570 Zzzz1057B Vith1057C Zzzz1058B Vith1058C
   Zzzz10593 Vith10594 Zzzz10596 Vith10597 Zzzz105A2 Vith105A3 Zzzz105B2 Vith105B3 Zzzz105BA
   Vith105BB Zzzz105BD Todr105C0 Zzzz105F4 Lina10600 Zzzz10737 Lina10740 Zzzz10756 Lina10760
   Zzzz10768 Latn10780 Zzzz10786 Latn10787 Zzzz107B1 Latn107B2 Zzzz107BB Cprt10800 Zzzz10806
   Cprt10808 Zzzz10809 Cprt1080A Zzzz10836 Cprt10837 Zzzz10839 Cprt1083C Zzzz1083D Cprt1083F
   Armi10840 Zzzz10856 Armi10857 Palm10860 Nbat10880 Zzzz1089F Nbat108A7 Zzzz108B0 Hatr108E0
   Zzzz108F3 Hatr108F4 Zzzz108F6 Hatr108FB Phnx10900 Zzzz1091C Phnx1091F Lydi10920 Zzzz1093A
   Lydi1093F Zzzz10940 Mero10980 Merc109A0 Zzzz109B8 Merc109BC Zzzz109D0 Merc109D2 Khar10A00
   Zzzz10A04 Khar10A05 Zzzz10A07 Khar10A0C Zzzz10A14 Khar10A15 Zzzz10A18 Khar10A19 Zzzz10A36
   Khar10A38 Zzzz10A3B Khar10A3F Zzzz10A49 Khar10A50 Zzzz10A59 Sarb10A60 Narb10A80 Zzzz10AA0
   Mani10AC0 Zzzz10AE7 Mani10AEB Zzzz10AF7 Avst10B00 Zzzz10B36 Avst10B39 Prti10B40 Zzzz10B56
   Prti10B58 Phli10B60 Zzzz10B73 Phli10B78 Phlp10B80 Zzzz10B92 Phlp10B99 Zzzz10B9D Phlp10BA9
   Zzzz10BB0 Orkh10C00 Zzzz10C49 Hung10C80 Zzzz10CB3 Hung10CC0 Zzzz10CF3 Hung10CFA Rohg10D00
   Zzzz10D28 Rohg10D30 Zzzz10D3A Gara10D40 Zzzz10D66 Gara10D69 Zzzz10D86 Gara10D8E Zzzz10D90
   Arab10E60 Zzzz10E7F Yezi10E80 Zzzz10EAA Yezi10EAB Zzzz10EAE Yezi10EB0 Zzzz10EB2 Arab10EC2
   Zzzz10EC5 Arab10EFC Sogo10F00 Zzzz10F28 Sogd10F30 Zzzz10F5A Ougr10F70 Zzzz10F8A Chrs10FB0
   Zzzz10FCC Elym10FE0 Zzzz10FF7 Brah11000 Zzzz1104E Brah11052 Zzzz11076 Brah1107F Kthi11080
   Zzzz110C3 Kthi110CD Zzzz110CE Sora110D0 Zzzz110E9 Sora110F0 Zzzz110FA Cakm11100 Zzzz11135
   Cakm11136 Zzzz11148 Mahj11150 Zzzz11177 Shrd11180 Zzzz111E0 Sinh111E1 Zzzz111F5 Khoj11200
   Zzzz11212 Khoj11213 Zzzz11242 Mult11280 Zzzz11287 Mult11288 Zzzz11289 Mult1128A Zzzz1128E
   Mult1128F Zzzz1129E Mult1129F Zzzz112AA Sind112B0 Zzzz112EB Sind112F0 Zzzz112FA Gran11300
   Zzzz11304 Gran11305 Zzzz1130D Gran1130F Zzzz11311 Gran11313 Zzzz11329 Gran1132A Zzzz11331
   Gran11332 Zzzz11334 Gran11335 Zzzz1133A Zinh1133B Gran1133C Zzzz11345 Gran11347 Zzzz11349
   Gran1134B Zzzz1134E Gran11350 Zzzz11351 Gran11357 Zzzz11358 Gran1135D Zzzz11364 Gran11366
   Zzzz1136D Gran11370 Zzzz11375 Tutg11380 Zzzz1138A Tutg1138B Zzzz1138C Tutg1138E Zzzz1138F
   Tutg11390 Zzzz113B6 Tutg113B7 Zzzz113C1 Tutg113C2 Zzzz113C3 Tutg113C5 Zzzz113C6 Tutg113C7
   Zzzz113CB Tutg113CC Zzzz113D6 Tutg113D7 Zzzz113D9 Tutg113E1 Zzzz113E3 Newa11400 Zzzz1145C
   Newa1145D Zzzz11462 Tirh11480 Zzzz114C8 Tirh114D0 Zzzz114DA Sidd11580 Zzzz115B6 Sidd115B8
   Zzzz115DE Modi11600 Zzzz11645 Modi11650 Zzzz1165A Mong11660 Zzzz1166D Takr11680 Zzzz116BA
   Takr116C0 Zzzz116CA Mymr116D0 Zzzz116E4 Ahom11700 Zzzz1171B Ahom1171D Zzzz1172C Ahom11730
   Zzzz11747 Dogr11800 Zzzz1183C Wara118A0 Zzzz118F3 Wara118FF Diak11900 Zzzz11907 Diak11909
   Zzzz1190A Diak1190C Zzzz11914 Diak11915 Zzzz11917 Diak11918 Zzzz11936 Diak11937 Zzzz11939
   Diak1193B Zzzz11947 Diak11950 Zzzz1195A Nand119A0 Zzzz119A8 Nand119AA Zzzz119D8 Nand119DA
   Zzzz119E5 Zanb11A00 Zzzz11A48 Soyo11A50 Zzzz11AA3 Cans11AB0 Pauc11AC0 Zzzz11AF9 Deva11B00
   Zzzz11B0A Sunu11BC0 Zzzz11BE2 Sunu11BF0 Zzzz11BFA Bhks11C00 Zzzz11C09 Bhks11C0A Zzzz11C37
   Bhks11C38 Zzzz11C46 Bhks11C50 Zzzz11C6D Marc11C70 Zzzz11C90 Marc11C92 Zzzz11CA8 Marc11CA9
   Zzzz11CB7 Gonm11D00 Zzzz11D07 Gonm11D08 Zzzz11D0A Gonm11D0B Zzzz11D37 Gonm11D3A Zzzz11D3B
   Gonm11D3C Zzzz11D3E Gonm11D3F Zzzz11D48 Gonm11D50 Zzzz11D5A Gong11D60 Zzzz11D66 Gong11D67
   Zzzz11D69 Gong11D6A Zzzz11D8F Gong11D90 Zzzz11D92 Gong11D93 Zzzz11D99 Gong11DA0 Zzzz11DAA
   Maka11EE0 Zzzz11EF9 Kawi11F00 Zzzz11F11 Kawi11F12 Zzzz11F3B Kawi11F3E Zzzz11F5B Lisu11FB0
   Zzzz11FB1 Taml11FC0 Zzzz11FF2 Taml11FFF Xsux12000 Zzzz1239A Xsux12400 Zzzz1246F Xsux12470
   Zzzz12475 Xsux12480 Zzzz12544 Cpmn12F90 Zzzz12FF3 Egyp13000 Zzzz13456 Egyp13460 Zzzz143FB
   Hluw14400 Zzzz14647 Gukh16100 Zzzz1613A Bamu16800 Zzzz16A39 Mroo16A40 Zzzz16A5F Mroo16A60
   Zzzz16A6A Mroo16A6E Tnsa16A70 Zzzz16ABF Tnsa16AC0 Zzzz16ACA Bass16AD0 Zzzz16AEE Bass16AF0
   Zzzz16AF6 Hmng16B00 Zzzz16B46 Hmng16B50 Zzzz16B5A Hmng16B5B Zzzz16B62 Hmng16B63 Zzzz16B78
   Hmng16B7D Zzzz16B90 Krai16D40 Zzzz16D7A Medf16E40 Zzzz16E9B Plrd16F00 Zzzz16F4B Plrd16F4F
   Zzzz16F88 Plrd16F8F Zzzz16FA0 Tang16FE0 Nshu16FE1 Hani16FE2 Kits16FE4 Zzzz16FE5 Hani16FF0
   Zzzz16FF2 Tang17000 Zzzz187F8 Tang18800 Kits18B00 Zzzz18CD6 Kits18CFF Tang18D00 Zzzz18D09
   Kana1AFF0 Zzzz1AFF4 Kana1AFF5 Zzzz1AFFC Kana1AFFD Zzzz1AFFF Kana1B000 Hira1B001 Kana1B120
   Zzzz1B123 Hira1B132 Zzzz1B133 Hira1B150 Zzzz1B153 Kana1B155 Zzzz1B156 Kana1B164 Zzzz1B168
   Nshu1B170 Zzzz1B2FC Dupl1BC00 Zzzz1BC6B Dupl1BC70 Zzzz1BC7D Dupl1BC80 Zzzz1BC89 Dupl1BC90
   Zzzz1BC9A Dupl1BC9C Zyyy1BCA0 Zzzz1BCA4 Zyyy1CC00 Zzzz1CCFA Zyyy1CD00 Zzzz1CEB4 Zinh1CF00
   Zzzz1CF2E Zinh1CF30 Zzzz1CF47 Zyyy1CF50 Zzzz1CFC4 Zyyy1D000 Zzzz1D0F6 Zyyy1D100 Zzzz1D127
   Zyyy1D129 Zinh1D167 Zyyy1D16A Zinh1D17B Zyyy1D183 Zinh1D185 Zyyy1D18C Zinh1D1AA Zyyy1D1AE
   Zzzz1D1EB Grek1D200 Zzzz1D246 Zyyy1D2C0 Zzzz1D2D4 Zyyy1D2E0 Zzzz1D2F4 Zyyy1D300 Zzzz1D357
   Zyyy1D360 Zzzz1D379 Zyyy1D400 Zzzz1D455 Zyyy1D456 Zzzz1D49D Zyyy1D49E Zzzz1D4A0 Zyyy1D4A2
   Zzzz1D4A3 Zyyy1D4A5 Zzzz1D4A7 Zyyy1D4A9 Zzzz1D4AD Zyyy1D4AE Zzzz1D4BA Zyyy1D4BB Zzzz1D4BC
   Zyyy1D4BD Zzzz1D4C4 Zyyy1D4C5 Zzzz1D506 Zyyy1D507 Zzzz1D50B Zyyy1D50D Zzzz1D515 Zyyy1D516
   Zzzz1D51D Zyyy1D51E Zzzz1D53A Zyyy1D53B Zzzz1D53F Zyyy1D540 Zzzz1D545 Zyyy1D546 Zzzz1D547
   Zyyy1D54A Zzzz1D551 Zyyy1D552 Zzzz1D6A6 Zyyy1D6A8 Zzzz1D7CC Zyyy1D7CE Sgnw1D800 Zzzz1DA8C
   Sgnw1DA9B Zzzz1DAA0 Sgnw1DAA1 Zzzz1DAB0 Latn1DF00 Zzzz1DF1F Latn1DF25 Zzzz1DF2B Glag1E000
   Zzzz1E007 Glag1E008 Zzzz1E019 Glag1E01B Zzzz1E022 Glag1E023 Zzzz1E025 Glag1E026 Zzzz1E02B
   Cyrl1E030 Zzzz1E06E Cyrl1E08F Zzzz1E090 Hmnp1E100 Zzzz1E12D Hmnp1E130 Zzzz1E13E Hmnp1E140
   Zzzz1E14A Hmnp1E14E Zzzz1E150 Toto1E290 Zzzz1E2AF Wcho1E2C0 Zzzz1E2FA Wcho1E2FF Zzzz1E300
   Nagm1E4D0 Zzzz1E4FA Onao1E5D0 Zzzz1E5FB Onao1E5FF Zzzz1E600 Ethi1E7E0 Zzzz1E7E7 Ethi1E7E8
   Zzzz1E7EC Ethi1E7ED Zzzz1E7EF Ethi1E7F0 Zzzz1E7FF Mend1E800 Zzzz1E8C5 Mend1E8C7 Zzzz1E8D7
   Adlm1E900 Zzzz1E94C Adlm1E950 Zzzz1E95A Adlm1E95E Zzzz1E960 Zyyy1EC71 Zzzz1ECB5 Zyyy1ED01
   Zzzz1ED3E Arab1EE00 Zzzz1EE04 Arab1EE05 Zzzz1EE20 Arab1EE21 Zzzz1EE23 Arab1EE24 Zzzz1EE25
   Arab1EE27 Zzzz1EE28 Arab1EE29 Zzzz1EE33 Arab1EE34 Zzzz1EE38 Arab1EE39 Zzzz1EE3A Arab1EE3B
   Zzzz1EE3C Arab1EE42 Zzzz1EE43 Arab1EE47 Zzzz1EE48 Arab1EE49 Zzzz1EE4A Arab1EE4B Zzzz1EE4C
   Arab1EE4D Zzzz1EE50 Arab1EE51 Zzzz1EE53 Arab1EE54 Zzzz1EE55 Arab1EE57 Zzzz1EE58 Arab1EE59
   Zzzz1EE5A Arab1EE5B Zzzz1EE5C Arab1EE5D Zzzz1EE5E Arab1EE5F Zzzz1EE60 Arab1EE61 Zzzz1EE63
   Arab1EE64 Zzzz1EE65 Arab1EE67 Zzzz1EE6B Arab1EE6C Zzzz1EE73 Arab1EE74 Zzzz1EE78 Arab1EE79
   Zzzz1EE7D Arab1EE7E Zzzz1EE7F Arab1EE80 Zzzz1EE8A Arab1EE8B Zzzz1EE9C Arab1EEA1 Zzzz1EEA4
   Arab1EEA5 Zzzz1EEAA Arab1EEAB Zzzz1EEBC Arab1EEF0 Zzzz1EEF2 Zyyy1F000 Zzzz1F02C Zyyy1F030
   Zzzz1F094 Zyyy1F0A0 Zzzz1F0AF Zyyy1F0B1 Zzzz1F0C0 Zyyy1F0C1 Zzzz1F0D0 Zyyy1F0D1 Zzzz1F0F6
   Zyyy1F100 Zzzz1F1AE Zyyy1F1E6 Hira1F200 Zyyy1F201 Zzzz1F203 Zyyy1F210 Zzzz1F23C Zyyy1F240
   Zzzz1F249 Zyyy1F250 Zzzz1F252 Zyyy1F260 Zzzz1F266 Zyyy1F300 Zzzz1F6D8 Zyyy1F6DC Zzzz1F6ED
   Zyyy1F6F0 Zzzz1F6FD Zyyy1F700 Zzzz1F777 Zyyy1F77B Zzzz1F7DA Zyyy1F7E0 Zzzz1F7EC Zyyy1F7F0
   Zzzz1F7F1 Zyyy1F800 Zzzz1F80C Zyyy1F810 Zzzz1F848 Zyyy1F850 Zzzz1F85A Zyyy1F860 Zzzz1F888
   Zyyy1F890 Zzzz1F8AE Zyyy1F8B0 Zzzz1F8BC Zyyy1F8C0 Zzzz1F8C2 Zyyy1F900 Zzzz1FA54 Zyyy1FA60
   Zzzz1FA6E Zyyy1FA70 Zzzz1FA7D Zyyy1FA80 Zzzz1FA8A Zyyy1FA8F Zzzz1FAC7 Zyyy1FACE Zzzz1FADD
   Zyyy1FADF Zzzz1FAEA Zyyy1FAF0 Zzzz1FAF9 Zyyy1FB00 Zzzz1FB93 Zyyy1FB94 Zzzz1FBFA Hani20000
   Zzzz2A6E0 Hani2A700 Zzzz2B73A Hani2B740 Zzzz2B81E Hani2B820 Zzzz2CEA2 Hani2CEB0 Zzzz2EBE1
   Hani2EBF0 Zzzz2EE5E Hani2F800 Zzzz2FA1E Hani30000 Zzzz3134B Hani31350 Zzzz323B0 ZyyyE0001
   ZzzzE0002 ZyyyE0020 ZzzzE0080 ZinhE0100 ZzzzE01F0"

/-- The places where the list of extensions changes: the codes, a colon, the code point. -/
def extensionChanges : String :=
  ":0 AvstCariCoptDuplElbaGeorGlagGongGothGrekHaniLatnLydiMahjPermShaw:B7 :B8
   BengCyrlDevaLatnLisuThaiToto:2BC :2BD BopoLatn:2C7 :2C8 BopoLatn:2C9 :2CC LatnLisu:2CD :2CE
   LatnThai:2D7 :2D8 BopoLatn:2D9 :2DA CherCoptCyrlGrekLatnPermTaleSunu:300
   CherCyrlGrekLatnOsgeTaleSunuTodr:301 CherCyrlLatnTfng:302 GlagLatnSyrcThaiSunu:303
   AghbCherCoptCyrlGothGrekLatnOsgeSyrcTfngTodr:304 CoptElbaGlagGothKanaLatn:305
   CyrlGrekLatnPermTfng:306 CoptDuplHebrLatnPermSyrcTaleTfngTodr:307
   ArmnCyrlDuplGothGrekHebrLatnPermSyrcTaleTfng:308 LatnTfng:309 DuplLatnSyrc:30A
   CherCyrlLatnOsge:30B CherLatnTale:30C LatnSunu:30D EthiLatn:30E :30F LatnSunu:310
   CyrlLatnTodr:311 :312 GrekLatnPermTodr:313 :314 CherDuplKanaLatnSyrcTfng:323
   CherDuplLatnSyrc:324 LatnSyrc:325 :326 LatnSyrcSunu:32D LatnSyrc:32E :32F CherLatnSyrc:330
   AghbCherGothLatnSyrcThaiSunu:331 :332 Grek:342 :343 Grek:345 :346 LatnOsge:358 :359
   AghbLatnTodr:35E :35F Latn:363 :370 CoptGrek:374 :376 CyrlPerm:483 CyrlGlag:484 CyrlLatn:485
   CyrlGlag:487 :488 ArmnGeorGlag:589 :58A ArabNkooRohgSyrcThaaYeziGara:60C :60D
   ArabNkooRohgSyrcThaaYeziGara:61B ArabSyrcThaa:61C :61D AdlmArabNkooRohgSyrcThaaYeziGara:61F
   :620 AdlmArabMandManiOugrPhlpRohgSogdSyrc:640 :641 ArabSyrc:64B :656 ArabThaaYezi:660 :66A
   ArabSyrc:670 :671 ArabRohg:6D4 :6D5
   BengDevaGranGujrGuruKndaLatnMlymNandNewaOryaShrdTamlTeluTirh:951
   BengDevaGranGujrGuruKndaLatnMlymNewaOryaTamlTeluTirh:952 :953
   BengDevaDogrGongGonmGranGujrGuruKndaMahjMlymNandOryaSindSinhSyloTakrTamlTeluTirhOnao:964
   BengDevaDogrGongGonmGranGujrGuruKndaLimbMahjMlymNandOryaSindSinhSyloTakrTamlTeluTirhGukhOnao:965
   DevaDogrKthiMahj:966 :970 BengCakmSylo:9E6 :9F0 GuruMult:A66 :A70 GujrKhoj:AE6 :AF0
   GranTaml:BE6 :BF4 KndaNandTutg:CE6 :CF0 CakmMymrTale:1040 :104A GeorGlagLatn:10FB :10FC
   Runr:16EB :16EE BuhdHanoTagbTglg:1735 :1737 MongPhag:1802 :1804 MongPhag:1805 :1806
   BengDevaGranKnda:1CD0 Deva:1CD1 BengDevaGranKnda:1CD2 DevaGranKnda:1CD3 Deva:1CD4
   BengDevaNewaTeluTirh:1CD5 BengDevaTelu:1CD6 DevaNewaShrd:1CD7 BengDevaNewaTelu:1CD8
   DevaShrd:1CD9 DevaKndaMlymOryaTamlTelu:1CDA Deva:1CDB DevaShrd:1CDC Deva:1CDE DevaShrd:1CE0
   BengDeva:1CE1 DevaNewaTirh:1CE2 Deva:1CE3 DevaNandNewa:1CE9 BengDevaShrd:1CEA DevaNewa:1CEB
   Deva:1CEC BengDevaNewaShrd:1CED Deva:1CEE BengDevaGranKndaMlymNandOryaSinhTeluTirhTutg:1CF2
   DevaGran:1CF3 DevaGranKndaTutg:1CF4 BengDeva:1CF5 Beng:1CF7 DevaGran:1CF8 Nand:1CFA :1CFB
   Grek:1DC0 :1DC2 CyrlLatnSyrc:1DF8 :1DF9 Syrc:1DFA :1DFB LatnMongPhag:202F :2030 AdlmArab:204F
   :2050 CariGeorGlagHungLyciOrkh:205A :205B CariGrekHungMero:205D :205E DevaGranLatn:20F0 :20F1
   CoptLatn:2E17 :2E18 AvstOrkh:2E30 AvstCariGeorHungKthiLydiSamr:2E31 :2E32 Dupl:2E3C :2E3D
   AdlmArabHung:2E41 :2E42 CyrlGlag:2E43 :2E44 HaniTang:2FF0 :3000
   BopoHangHaniHiraKanaMongYiii:3001 BopoHangHaniHiraKanaMongPhagYiii:3002
   BopoHangHaniHiraKana:3003 :3004 Hani:3006 :3007 BopoHangHaniHiraKanaMongTibtYiii:3008
   BopoHangHaniHiraKanaLisuMongTibtYiii:300A BopoHangHaniHiraKanaYiii:300C :3012
   BopoHangHaniHiraKana:3013 BopoHangHaniHiraKanaYiii:3014 BopoHangHaniHiraKana:301C :3020
   BopoHani:302A :302E BopoHangHaniHiraKana:3030 HiraKana:3031 :3036 BopoHangHaniHiraKana:3037
   :3038 HaniHiraKana:303C Hani:303E :3040 HiraKana:3099 :309D HiraKana:30A0 :30A1
   BopoHangHaniHiraKanaYiii:30FB HiraKana:30FC :30FD Hani:3190 :31A0 Hani:31C0 :31E6 HaniTang:31EF
   :31F0 Hani:3220 :3248 Hani:3280 :32B1 Hani:32C0 :32CC Hani:32FF :3300 Hani:3358 :3371 Hani:337B
   :3380 Hani:33E0 :33FF CyrlGlag:A66F :A670 HaniLatn:A700 :A708
   DevaDogrGujrGuruKhojKndaKthiMahjMlymModiNandShrdSindTakrTirhTutg:A830
   DevaDogrGujrGuruKhojKndaKthiMahjModiNandShrdSindTakrTirhTutg:A833
   DevaDogrGujrGuruKhojKthiMahjModiSindTakrTirh:A836
   DevaDogrGujrGuruKhojKthiMahjModiShrdSindTakrTirh:A838
   DevaDogrGujrGuruKhojKthiMahjModiSindTakrTirh:A839 :A83A BengDevaTutg:A8F1 :A8F2 DevaTaml:A8F3
   :A8F4 KaliLatnMymr:A92E :A92F BugiJava:A9CF :A9D0 ArabNkoo:FD3E :FD40 ArabThaa:FDF2 :FDF3
   ArabThaa:FDFD :FDFE BopoHangHaniHiraKana:FE45 :FE47 BopoHangHaniHiraKanaYiii:FF61 :FF66
   HiraKana:FF70 :FF71 HiraKana:FF9E :FFA0 CpmnCprtLinb:10100 CprtLinb:10102 :10103
   CprtLinaLinb:10107 :10134 CprtLinb:10137 :10140 ArabCopt:102E0 :102FC ManiOugr:10AF2 :10AF3
   GranTaml:11301 :11302 GranTaml:11303 :11304 GranTaml:1133B :1133D GranTaml:11FD0 :11FD2
   GranTaml:11FD3 :11FD4 Dupl:1BCA0 :1BCA4 Hani:1D360 :1D372 Hani:1F250 :1F252"

/-- The script of every code point, as runs. -/
def table : Runs (List Char) :=
  ⟨((words changes).map fun w => (hexNumber (w.drop 4), w.take 4)).toArray⟩

/-- The explicit extensions of every code point, as runs; the empty list where there are none. -/
def extensionTable : Runs (List Char) :=
  ⟨((words extensionChanges).map fun w =>
    (hexNumber ((w.dropWhile (· != ':')).drop 1), w.takeWhile (· != ':'))).toArray⟩

/-- Whether `code` is one of the four-letter codes that stand side by side in `codes`. -/
def listed (code : List Char) : List Char → Bool
  | a :: b :: c :: d :: rest => code == [a, b, c, d] || listed code rest
  | _ => false

/-- Whether the code point has the script `code`. -/
def has (code : List Char) (c : Nat) : Bool :=
  (table.value? c).any (· == code)

/-- Whether the code point is used with the script `code`. -/
def usedWith (code : List Char) (c : Nat) : Bool :=
  match extensionTable.value? c with
  | some [] | none => has code c
  | some codes => listed code codes

/-- The scripts: the code, then the further names, in lower case and without separators. -/
def names : List (String × List String) := [
  ("Adlm", ["adlm", "adlam"]),
  ("Aghb", ["aghb", "caucasianalbanian"]),
  ("Ahom", ["ahom"]),
  ("Arab", ["arab", "arabic"]),
  ("Armi", ["armi", "imperialaramaic"]),
  ("Armn", ["armn", "armenian"]),
  ("Avst", ["avst", "avestan"]),
  ("Bali", ["bali", "balinese"]),
  ("Bamu", ["bamu", "bamum"]),
  ("Bass", ["bass", "bassavah"]),
  ("Batk", ["batk", "batak"]),
  ("Beng", ["beng", "bengali"]),
  ("Bhks", ["bhks", "bhaiksuki"]),
  ("Bopo", ["bopo", "bopomofo"]),
  ("Brah", ["brah", "brahmi"]),
  ("Brai", ["brai", "braille"]),
  ("Bugi", ["bugi", "buginese"]),
  ("Buhd", ["buhd", "buhid"]),
  ("Cakm", ["cakm", "chakma"]),
  ("Cans", ["cans", "canadianaboriginal"]),
  ("Cari", ["cari", "carian"]),
  ("Cham", ["cham"]),
  ("Cher", ["cher", "cherokee"]),
  ("Chrs", ["chrs", "chorasmian"]),
  ("Copt", ["copt", "coptic", "qaac"]),
  ("Cpmn", ["cpmn", "cyprominoan"]),
  ("Cprt", ["cprt", "cypriot"]),
  ("Cyrl", ["cyrl", "cyrillic"]),
  ("Deva", ["deva", "devanagari"]),
  ("Diak", ["diak", "divesakuru"]),
  ("Dogr", ["dogr", "dogra"]),
  ("Dsrt", ["dsrt", "deseret"]),
  ("Dupl", ["dupl", "duployan"]),
  ("Egyp", ["egyp", "egyptianhieroglyphs"]),
  ("Elba", ["elba", "elbasan"]),
  ("Elym", ["elym", "elymaic"]),
  ("Ethi", ["ethi", "ethiopic"]),
  ("Geor", ["geor", "georgian"]),
  ("Glag", ["glag", "glagolitic"]),
  ("Gong", ["gong", "gunjalagondi"]),
  ("Gonm", ["gonm", "masaramgondi"]),
  ("Goth", ["goth", "gothic"]),
  ("Gran", ["gran", "grantha"]),
  ("Grek", ["grek", "greek"]),
  ("Gujr", ["gujr", "gujarati"]),
  ("Guru", ["guru", "gurmukhi"]),
  ("Hang", ["hang", "hangul"]),
  ("Hani", ["hani", "han"]),
  ("Hano", ["hano", "hanunoo"]),
  ("Hatr", ["hatr", "hatran"]),
  ("Hebr", ["hebr", "hebrew"]),
  ("Hira", ["hira", "hiragana"]),
  ("Hluw", ["hluw", "anatolianhieroglyphs"]),
  ("Hmng", ["hmng", "pahawhhmong"]),
  ("Hmnp", ["hmnp", "nyiakengpuachuehmong"]),
  ("Hung", ["hung", "oldhungarian"]),
  ("Ital", ["ital", "olditalic"]),
  ("Java", ["java", "javanese"]),
  ("Kali", ["kali", "kayahli"]),
  ("Kana", ["kana", "katakana"]),
  ("Kawi", ["kawi"]),
  ("Khar", ["khar", "kharoshthi"]),
  ("Khmr", ["khmr", "khmer"]),
  ("Khoj", ["khoj", "khojki"]),
  ("Kits", ["kits", "khitansmallscript"]),
  ("Knda", ["knda", "kannada"]),
  ("Kthi", ["kthi", "kaithi"]),
  ("Lana", ["lana", "taitham"]),
  ("Laoo", ["laoo", "lao"]),
  ("Latn", ["latn", "latin"]),
  ("Lepc", ["lepc", "lepcha"]),
  ("Limb", ["limb", "limbu"]),
  ("Lina", ["lina", "lineara"]),
  ("Linb", ["linb", "linearb"]),
  ("Lisu", ["lisu"]),
  ("Lyci", ["lyci", "lycian"]),
  ("Lydi", ["lydi", "lydian"]),
  ("Mahj", ["mahj", "mahajani"]),
  ("Maka", ["maka", "makasar"]),
  ("Mand", ["mand", "mandaic"]),
  ("Mani", ["mani", "manichaean"]),
  ("Marc", ["marc", "marchen"]),
  ("Medf", ["medf", "medefaidrin"]),
  ("Mend", ["mend", "mendekikakui"]),
  ("Merc", ["merc", "meroiticcursive"]),
  ("Mero", ["mero", "meroitichieroglyphs"]),
  ("Mlym", ["mlym", "malayalam"]),
  ("Modi", ["modi"]),
  ("Mong", ["mong", "mongolian"]),
  ("Mroo", ["mroo", "mro"]),
  ("Mtei", ["mtei", "meeteimayek"]),
  ("Mult", ["mult", "multani"]),
  ("Mymr", ["mymr", "myanmar"]),
  ("Nagm", ["nagm", "nagmundari"]),
  ("Nand", ["nand", "nandinagari"]),
  ("Narb", ["narb", "oldnortharabian"]),
  ("Nbat", ["nbat", "nabataean"]),
  ("Newa", ["newa"]),
  ("Nkoo", ["nkoo", "nko"]),
  ("Nshu", ["nshu", "nushu"]),
  ("Ogam", ["ogam", "ogham"]),
  ("Olck", ["olck", "olchiki"]),
  ("Orkh", ["orkh", "oldturkic"]),
  ("Orya", ["orya", "oriya"]),
  ("Osge", ["osge", "osage"]),
  ("Osma", ["osma", "osmanya"]),
  ("Ougr", ["ougr", "olduyghur"]),
  ("Palm", ["palm", "palmyrene"]),
  ("Pauc", ["pauc", "paucinhau"]),
  ("Perm", ["perm", "oldpermic"]),
  ("Phag", ["phag", "phagspa"]),
  ("Phli", ["phli", "inscriptionalpahlavi"]),
  ("Phlp", ["phlp", "psalterpahlavi"]),
  ("Phnx", ["phnx", "phoenician"]),
  ("Plrd", ["plrd", "miao"]),
  ("Prti", ["prti", "inscriptionalparthian"]),
  ("Rjng", ["rjng", "rejang"]),
  ("Rohg", ["rohg", "hanifirohingya"]),
  ("Runr", ["runr", "runic"]),
  ("Samr", ["samr", "samaritan"]),
  ("Sarb", ["sarb", "oldsoutharabian"]),
  ("Saur", ["saur", "saurashtra"]),
  ("Sgnw", ["sgnw", "signwriting"]),
  ("Shaw", ["shaw", "shavian"]),
  ("Shrd", ["shrd", "sharada"]),
  ("Sidd", ["sidd", "siddham"]),
  ("Sind", ["sind", "khudawadi"]),
  ("Sinh", ["sinh", "sinhala"]),
  ("Sogd", ["sogd", "sogdian"]),
  ("Sogo", ["sogo", "oldsogdian"]),
  ("Sora", ["sora", "sorasompeng"]),
  ("Soyo", ["soyo", "soyombo"]),
  ("Sund", ["sund", "sundanese"]),
  ("Sylo", ["sylo", "sylotinagri"]),
  ("Syrc", ["syrc", "syriac"]),
  ("Tagb", ["tagb", "tagbanwa"]),
  ("Takr", ["takr", "takri"]),
  ("Tale", ["tale", "taile"]),
  ("Talu", ["talu", "newtailue"]),
  ("Taml", ["taml", "tamil"]),
  ("Tang", ["tang", "tangut"]),
  ("Tavt", ["tavt", "taiviet"]),
  ("Telu", ["telu", "telugu"]),
  ("Tfng", ["tfng", "tifinagh"]),
  ("Tglg", ["tglg", "tagalog"]),
  ("Thaa", ["thaa", "thaana"]),
  ("Thai", ["thai"]),
  ("Tibt", ["tibt", "tibetan"]),
  ("Tirh", ["tirh", "tirhuta"]),
  ("Tnsa", ["tnsa", "tangsa"]),
  ("Toto", ["toto"]),
  ("Ugar", ["ugar", "ugaritic"]),
  ("Vaii", ["vaii", "vai"]),
  ("Vith", ["vith", "vithkuqi"]),
  ("Wara", ["wara", "warangciti"]),
  ("Wcho", ["wcho", "wancho"]),
  ("Xpeo", ["xpeo", "oldpersian"]),
  ("Xsux", ["xsux", "cuneiform"]),
  ("Yezi", ["yezi", "yezidi"]),
  ("Yiii", ["yiii", "yi"]),
  ("Zanb", ["zanb", "zanabazarsquare"]),
  ("Zinh", ["zinh", "inherited", "qaai"]),
  ("Zyyy", ["zyyy", "common"]),
  ("Gara", ["gara", "garay"]),
  ("Gukh", ["gukh", "gurungkhema"]),
  ("Krai", ["krai", "kiratrai"]),
  ("Onao", ["onao", "olonal"]),
  ("Sunu", ["sunu", "sunuwar"]),
  ("Todr", ["todr", "todhri"]),
  ("Tutg", ["tutg", "tulutigalari"])]

/-- The code of the script with a given name, in lower case and without separators. -/
def ofName? (name : String) : Option (List Char) :=
  (names.find? fun (_, all) => all.contains name).map fun (code, _) => code.toList

end JavaHomes.Unicode.Script
